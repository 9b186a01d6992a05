import RecordMapper.Value.Basic

/-!
# Values and documents

A document becomes a value and a value a document, and some of them can be told from what they become.

* A document is the document of its value exactly if, outside of objects, its integers fit 64 bits and its doubles are
  finite, as those of all JSON texts are (`Value.toJson_ofJson_iff`).
* A value is the value of its document exactly if it is made of the kinds that documents become
  (`Value.ofJson_toJson_iff`).
* The documents and the values of these two kinds become each other (`Value.fitsJson_ofJson`, `Value.fitsValue_toJson`).
-/

namespace RecordMapper

/-- A document that fits a value: outside of objects, its integers fit 64 bits and its doubles are finite. -/
inductive Json.FitsValue : Json → Prop where
  | null : FitsValue .null
  | bool (b : Bool) : FitsValue (.bool b)
  | int {i : Int} (h : fitsInt64 i) : FitsValue (.int i)
  | float {x : Float} (h : Decimal.isFinite x) : FitsValue (.float x)
  | str (s : String) : FitsValue (.str s)
  | arr {items : List Json} (h : ∀ item ∈ items, FitsValue item) : FitsValue (.arr items)
  | obj (members : List (String × Json)) : FitsValue (.obj members)

namespace Value

/-- A value that fits a document: `NULL`, a truth value, an integer of 64 bits, a finite double, a text, an object, or
an array of such. -/
inductive FitsJson : Value → Prop where
  | null : FitsJson .null
  | bool (b : Bool) : FitsJson (.bool b)
  | bigint (n : Int64) : FitsJson (.bigint n)
  | double {x : Float} (h : Decimal.isFinite x) : FitsJson (.double x)
  | text (s : String) : FitsJson (.text s)
  | object (members : List (String × Json)) : FitsJson (.json (.obj members))
  | array {items : List Value} (h : ∀ item ∈ items, FitsJson item) : FitsJson (.array items)

theorem fitsInt64_toInt (n : Int64) : Json.fitsInt64 n.toInt = true := by
  rw [Json.fitsInt64, Bool.and_eq_true, decide_eq_true_eq, decide_eq_true_eq]
  exact ⟨n.le_toInt, n.toInt_lt⟩

theorem toInt_ofInt_of_fits {i : Int} (h : Json.fitsInt64 i = true) : (Int64.ofInt i).toInt = i := by
  rw [Json.fitsInt64, Bool.and_eq_true, decide_eq_true_eq, decide_eq_true_eq] at h
  exact Int64.toInt_ofInt_of_le h.1 h.2

/-! ### The document of the value of a document -/

mutual

theorem toJson_ofJson_iff (d : Json) : (ofJson d).toJson = d ↔ d.FitsValue := by
  match d with
  | .null => exact iff_of_true rfl .null
  | .bool b => exact iff_of_true rfl (.bool b)
  | .str s => exact iff_of_true rfl (.str s)
  | .obj members => exact iff_of_true rfl (.obj members)
  | .int i =>
    rw [ofJson]
    cases hi : Json.fitsInt64 i with
    | true =>
      rw [if_pos rfl, toJson, toInt_ofInt_of_fits hi]
      exact iff_of_true rfl (.int hi)
    | false =>
      -- it becomes a double, whose document is no integer
      rw [if_neg Bool.false_ne_true, toJson]
      refine iff_of_false (fun h => ?_) fun | .int h => Bool.false_ne_true (hi.symm.trans h)
      split at h <;> exact nomatch h
  | .float x =>
    rw [ofJson, toJson]
    cases hx : Decimal.isFinite x with
    | true => exact iff_of_true rfl (.float hx)
    | false => exact iff_of_false (fun h => nomatch h) fun | .float h => Bool.false_ne_true (hx.symm.trans h)
  | .arr items =>
    rw [ofJson, toJson, Json.arr.injEq, toJsonItems_ofJsonItems_iff items]
    exact ⟨.arr, fun | .arr h => h⟩

theorem toJsonItems_ofJsonItems_iff (items : List Json) :
    toJsonItems (ofJsonItems items) = items ↔ ∀ item ∈ items, item.FitsValue := by
  match items with
  | [] => exact iff_of_true rfl fun _ h => nomatch h
  | item :: items =>
    rw [ofJsonItems, toJsonItems, List.cons.injEq, toJson_ofJson_iff item, toJsonItems_ofJsonItems_iff items,
      List.forall_mem_cons]

end

/-! ### The value of the document of a value -/

mutual

theorem ofJson_toJson_iff (v : Value) : ofJson v.toJson = v ↔ v.FitsJson := by
  match v with
  | .null => exact iff_of_true rfl .null
  | .bool b => exact iff_of_true rfl (.bool b)
  | .text s => exact iff_of_true rfl (.text s)
  | .default | .decimal s | .bytes bs => exact iff_of_false (fun h => nomatch h) fun h => nomatch h
  | .int n =>
    -- an integer of 32 bits comes back as one of 64 bits
    rw [toJson, ofJson]
    refine iff_of_false (fun h => ?_) fun h => nomatch h
    split at h <;> exact nomatch h
  | .bigint n =>
    rw [toJson, ofJson, if_pos (fitsInt64_toInt n), Int64.ofInt_toInt]
    exact iff_of_true rfl (.bigint n)
  | .double x =>
    rw [toJson]
    cases hx : Decimal.isFinite x with
    | true => exact iff_of_true rfl (.double hx)
    | false => exact iff_of_false (fun h => nomatch h) fun | .double h => Bool.false_ne_true (hx.symm.trans h)
  | .json (.obj members) => exact iff_of_true rfl (.object members)
  | .json (.int i) =>
    rw [toJson, ofJson]
    refine iff_of_false (fun h => ?_) fun h => nomatch h
    split at h <;> exact nomatch h
  | .json .null | .json (.bool _) | .json (.float _) | .json (.str _) | .json (.arr _) =>
    exact iff_of_false (fun h => nomatch h) fun h => nomatch h
  | .array items =>
    rw [toJson, ofJson, array.injEq, ofJsonItems_toJsonItems_iff items]
    exact ⟨.array, fun | .array h => h⟩

theorem ofJsonItems_toJsonItems_iff (items : List Value) :
    ofJsonItems (toJsonItems items) = items ↔ ∀ item ∈ items, item.FitsJson := by
  match items with
  | [] => exact iff_of_true rfl fun _ h => nomatch h
  | item :: items =>
    rw [toJsonItems, ofJsonItems, List.cons.injEq, ofJson_toJson_iff item, ofJsonItems_toJsonItems_iff items,
      List.forall_mem_cons]

end

/-! ### One for the other -/

/-- The value of a document that fits it fits the document. -/
theorem fitsJson_ofJson {d : Json} (h : d.FitsValue) : (ofJson d).FitsJson := by
  rw [← ofJson_toJson_iff, (toJson_ofJson_iff d).2 h]

/-- The document of a value that fits it fits the value. -/
theorem fitsValue_toJson {v : Value} (h : v.FitsJson) : v.toJson.FitsValue := by
  rw [← toJson_ofJson_iff, (ofJson_toJson_iff v).2 h]

/--
Documents and values are one for the other: a document is given back by its value exactly if it fits one, and a value by
its document exactly if it fits one.
-/
theorem json_inverse :
    (∀ d : Json, (ofJson d).toJson = d ↔ d.FitsValue) ∧ ∀ v : Value, ofJson v.toJson = v ↔ v.FitsJson :=
  ⟨toJson_ofJson_iff, ofJson_toJson_iff⟩

end Value

end RecordMapper
