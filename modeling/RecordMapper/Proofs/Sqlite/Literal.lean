import RecordMapper.Proofs.Filter.Members
import RecordMapper.Proofs.Json.Printable
import RecordMapper.Proofs.Sqlite.Reading

/-!
# Values as literals and as parameters

A value of a condition is bound to a parameter, or written into the statement as a member of a list.  Whichever it is,
every library that keeps to what is documented compares the column with the same datum (`members_read_as_bound`).  The
exceptions are numbers that are kept as texts, texts that no statement can hold, and data beyond the limit of the library
(`members_not_read_as_bound`).
-/

namespace RecordMapper

open Text Decimal Pattern Sqlite

variable {δ σ : Type} {lib : Library δ σ} {o : Operands σ}

namespace Value

variable {v : Value} {d : Datum}

/-- Whether the character zero stands in the text of the value; documents escape it. -/
def HoldsNul : Value → Prop
  | .decimal s | .text s => '\x00' ∈ s.toList
  | .null | .bool _ | .int _ | .bigint _ | .double _ | .json _ | .bytes _ | .array _ | .default => False

/-- The datum that a value is. -/
def datum? : Value → Option Datum
  | .null => some .null
  | .bool b => some (.int (if b then 1 else 0))
  | .int n => some (.int n.toInt64)
  | .bigint n => some (.int n)
  | .decimal s | .text s => some (.ofString s)
  | .json doc => some (.ofString doc.text)
  | .bytes bs => some (.blob bs)
  | .double _ | .array _ | .default => none

/-- No such datum is a double. -/
theorem ne_real_of_datum? (h : v.datum? = some d) (x : Float) : d ≠ .real x := by
  rintro rfl
  cases v <;> simp [datum?, Datum.ofString] at h

/-- The value is bound as the datum that it is, to every parameter of every statement. -/
def BoundAs (lib : Library δ σ) (o : Operands σ) (v : Value) (d : Datum) : Prop :=
  v.datum? = some d ∧ ∀ stmt i, 1 ≤ i → i ≤ o.parameters stmt →
    ∃ bound, lib.bindValue stmt i v = .ok bound ∧ o.Bound stmt i d bound

/--
The datum of the value as a literal: the one that is bound, apart from doubles and from decimals that spell numbers, of
which it is the number.
-/
def InlinedAs (lib : Library δ σ) (o : Operands σ) : Value → Datum → Prop
  | .double x, d => if isFinite x then Sqlite.Spells (plainText x).toList d ∧ d.IsNumber else d = .null
  | .decimal s, d =>
    if (Number.read? s).isSome then Sqlite.Spells (trim s.toList) d ∧ d.IsNumber else BoundAs lib o (.decimal s) d
  | v, d => BoundAs lib o v d

private theorem gives_ofString {s : String} (h : (Datum.ofString s).size < 0x80000000) :
    (Binding.ofString s).Gives (.ofString s) ∧ (Binding.ofString s).size = (Datum.ofString s).size := by
  have hlength : cInt (Utf8.write s).length = (Utf8.write s).length := cInt_of_lt h
  have hgives := Binding.Gives.text (Nat.le_refl (Utf8.write s).length)
  rw [List.take_length] at hgives
  rw [Binding.ofString, hlength]
  exact ⟨hgives, rfl⟩

private theorem gives_blob {bs : Bytes} (h : bs.length < 0x80000000) :
    (Binding.blob bs (cInt bs.length)).Gives (.blob bs) ∧ (Binding.blob bs (cInt bs.length)).size = bs.length := by
  have hgives := Binding.Gives.blob (Nat.le_refl bs.length)
  rw [List.take_length] at hgives
  rw [cInt_of_lt h]
  exact ⟨hgives, rfl⟩

/-- The call for a value gives the datum that the value is. -/
theorem exists_gives (h : v.datum? = some d) (hsize : d.size < 0x80000000) :
    ∃ b, bindingOf? v = some b ∧ b.Gives d ∧ b.size = d.size := by
  cases v with
  | double _ | array _ | default => exact nomatch h
  | null =>
    obtain rfl := Option.some.inj h
    exact ⟨_, rfl, .null, rfl⟩
  | bool _ | int _ | bigint _ =>
    obtain rfl := Option.some.inj h
    exact ⟨_, rfl, .int64 _, rfl⟩
  | decimal _ | text _ | json _ =>
    obtain rfl := Option.some.inj h
    exact ⟨_, rfl, gives_ofString hsize⟩
  | bytes _ =>
    obtain rfl := Option.some.inj h
    exact ⟨_, rfl, gives_blob hsize⟩

/-- Within the limit of the library a value is bound as the datum that it is. -/
theorem boundAs_of_size (ho : o.Documented lib) (h : v.datum? = some d) (hsize : d.size ≤ o.longest) :
    v.BoundAs lib o d := by
  obtain ⟨b, hb, hgives, hlength⟩ := exists_gives h (hsize.trans_lt ho.longest_lt)
  refine ⟨h, fun stmt i hfirst hlast => ?_⟩
  rw [Library.bindValue, hb]
  exact ho.bind hfirst hlast hgives (hlength.trans_le hsize)

end Value

namespace Filter

/-! ### Members -/

private theorem toList_memberText_bytes (bs : Bytes) : (memberText Dialect.sqlite.quoter (.bytes bs)).toList =
    'X' :: '\'' :: (Dialect.hexDigits bs ++ ['\'']) := by
  simp [memberText, Value.literal?, Dialect.quoter, Dialect.quoteLiteral, Dialect.quoteBytes]

theorem spells_quoteText {s : String} (h : '\x00' ∉ s.toList) :
    Spells (Dialect.sqlite.quoteText s).toList (.ofString s) := by
  have hread : Dialect.sqlite.readString (Dialect.sqlite.escaped s.toList ++ ['\'']) = some (s.toList, []) :=
    Dialect.readString_escaped .sqlite s.toList nofun
  rw [Dialect.quoteText, String.toList_ofList, ← String.ofList_toList (s := s), String.toList_ofList]
  exact .text hread h

theorem spells_intText {i : Int} (h : IsWord i) : Spells (intText i).toList (.int (Int64.ofInt i)) := by
  rw [intText, String.toList_ofList]
  exact .integer (readInt?_intDigits i) h

theorem spells_bytes (bs : Bytes) : Spells (memberText Dialect.sqlite.quoter (.bytes bs)).toList (.blob bs) := by
  rw [toList_memberText_bytes]
  exact .blob (Dialect.hexBytes?_hexDigits bs)

/-- A numeral is a literal. -/
theorem exists_spells_of_numeral {cs : List Char} (h : Matches numeralShape cs) : ∃ d, Spells cs d := by
  by_cases hword : ∃ i, readInt? cs = some i ∧ IsWord i
  · obtain ⟨i, hread, hfits⟩ := hword
    exact ⟨_, .integer hread hfits⟩
  · exact ⟨_, .real h (fun i hread hfits => hword ⟨i, hread, hfits⟩) 0⟩

/-- A single value is written as a literal, and for no other datum than it should be. -/
theorem inlinedAs_memberText (ho : o.Documented lib) {v : Value} (h : v.isScalar) (hnul : ¬ v.HoldsNul) :
    (∃ d, Spells (memberText Dialect.sqlite.quoter v).toList d) ∧
      ∀ d, Spells (memberText Dialect.sqlite.quoter v).toList d → d.size ≤ o.longest → v.InlinedAs lib o d := by
  -- a literal of anything but a number leaves no choice of what it stands for
  have written {lit : String} {d : Datum} (hlit : Spells lit.toList d) (hd : v.datum? = some d) :
      (∃ d, Spells lit.toList d) ∧ ∀ d, Spells lit.toList d → d.size ≤ o.longest → v.BoundAs lib o d := by
    refine ⟨⟨d, hlit⟩, fun d' hd' hsize => ?_⟩
    obtain rfl := hlit.unique hd' (Value.ne_real_of_datum? hd)
    exact Value.boundAs_of_size ho hd hsize
  have numeral {cs : List Char} (hcs : Matches numeralShape cs) :
      (∃ d, Spells cs d) ∧ ∀ d, Spells cs d → d.size ≤ o.longest → Spells cs d ∧ d.IsNumber :=
    ⟨exists_spells_of_numeral hcs, fun _ hd _ => ⟨hd, hd.isNumber hcs⟩⟩
  cases v with
  | array items => cases h
  | default => cases h
  | null => exact written .null rfl
  | bool b =>
    cases b
    · exact written (spells_intText (i := 0) ⟨by decide, by decide⟩) rfl
    · exact written (spells_intText (i := 1) ⟨by decide, by decide⟩) rfl
  | int n =>
    have hlow := n.le_toInt
    have hhigh := n.toInt_lt
    have hlit : Spells (intText n.toInt).toList _ := spells_intText ⟨by omega, by omega⟩
    rw [Int64.ofInt_int32ToInt] at hlit
    exact written hlit rfl
  | bigint n =>
    have hlit : Spells (intText n.toInt).toList _ := spells_intText ⟨n.le_toInt, n.toInt_lt⟩
    rw [Int64.ofInt_toInt] at hlit
    exact written hlit rfl
  | double x =>
    by_cases hx : isFinite x
    · rw [memberText_double_finite _ hx]
      simpa only [Value.InlinedAs, if_pos hx] using numeral (numeral_plainText hx)
    · rw [memberText_double_other _ hx]
      simp only [Value.InlinedAs, if_neg hx]
      exact ⟨⟨_, .null⟩, fun d hd _ => Spells.null.unique hd (by simp)⟩
  | decimal s =>
    by_cases hs : (Number.read? s).isSome
    · rw [memberText_decimal_number _ hs, trimmed, String.toList_ofList]
      simpa only [Value.InlinedAs, if_pos hs] using numeral (numeral_trim hs)
    · rw [memberText_decimal_other _ hs]
      simp only [Value.InlinedAs, if_neg hs]
      exact written (spells_quoteText hnul) rfl
  | text s => exact written (spells_quoteText hnul) rfl
  | json doc =>
    have hprintable : '\x00' ∉ doc.text.toList := fun hmem => absurd (doc.text_printable _ hmem) (by decide)
    exact written (spells_quoteText hprintable) rfl
  | bytes bs => exact written (spells_bytes bs) rfl

private theorem mem_quoteText {s : String} : '\x00' ∈ (Dialect.sqlite.quoteText s).toList ↔ '\x00' ∈ s.toList := by
  simp [Dialect.quoteText, Dialect.escaped, Dialect.mem_doubled]

/-- Only the texts of values bring the character zero into a literal. -/
theorem nul_mem_memberText {v : Value} (h : v.isScalar) :
    '\x00' ∈ (memberText Dialect.sqlite.quoter v).toList ↔ v.HoldsNul := by
  have numeral {cs : List Char} (h : Matches numeralShape cs) : '\x00' ∉ cs := notMem_of_numeral h rfl (by decide)
  have integer (i : Int) : '\x00' ∉ (intText i).toList := by
    rw [intText, String.toList_ofList]
    exact numeral (numeral_of_readInt (readInt?_intDigits i))
  cases v with
  | null => exact iff_false_intro (by decide)
  | bool b =>
    cases b
    · exact iff_false_intro (integer 0)
    · exact iff_false_intro (integer 1)
  | int n => exact iff_false_intro (integer n.toInt)
  | bigint n => exact iff_false_intro (integer n.toInt)
  | double x =>
    by_cases hx : isFinite x
    · rw [memberText_double_finite _ hx]
      exact iff_false_intro (numeral (numeral_plainText hx))
    · rw [memberText_double_other _ hx]
      exact iff_false_intro (by decide)
  | decimal s =>
    by_cases hs : (Number.read? s).isSome
    · -- a number has no such character, and none is stripped from it
      rw [memberText_decimal_number _ hs, trimmed, String.toList_ofList, mem_trim_iff (by decide)]
      rfl
    · rw [memberText_decimal_other _ hs]
      exact mem_quoteText
  | text s => exact mem_quoteText
  | json doc =>
    refine iff_false_intro fun hmem => ?_
    exact absurd (doc.text_printable '\x00' (mem_quoteText.1 hmem)) (by decide)
  | bytes bs =>
    have hdigits : '\x00' ∉ Dialect.hexDigits bs := Dialect.notMem_hexDigits (by decide) bs
    rw [toList_memberText_bytes]
    exact iff_false_intro (by simp [hdigits])
  | array items => cases h
  | default => cases h

private theorem nul_mem_members {vs : List Value} (h : ∀ v ∈ vs, v.isScalar) :
    '\x00' ∉ (listText (vs.map (memberText Dialect.sqlite.quoter))).toList ↔
      ∀ w ∈ vs, ¬ w.HoldsNul := by
  have hjoined : '\x00' ∉ (", ".intercalate (vs.map (memberText Dialect.sqlite.quoter))).toList ↔
      ∀ w ∈ vs, ¬ w.HoldsNul := by
    have hne {cs : List Char} : '\x00' ∉ cs ↔ ∀ c ∈ cs, c ≠ '\x00' :=
      ⟨fun h c hc heq => h (heq ▸ hc), fun h hmem => h _ hmem rfl⟩
    have hseparator : ∀ c ∈ ", ".toList, c ≠ '\x00' := hne.1 (by decide)
    rw [String.toList_intercalate, hne, forall_mem_intercalate hseparator, List.map_map, List.forall_mem_map]
    refine forall₂_congr fun w hw => ?_
    rw [← nul_mem_memberText (h w hw), hne]
    rfl
  simpa [listText] using hjoined

/-- The members of a list are the data of its values. -/
private theorem exists_members (ho : o.Documented lib) {vs : List Value} (hne : vs ≠ []) (h : ∀ v ∈ vs, v.isScalar)
    (hnul : ∀ v ∈ vs, ¬ v.HoldsNul)
    (hsize : (Utf8.write (listText (vs.map (memberText Dialect.sqlite.quoter)))).length ≤ o.longest) :
    ∃ ds, o.members (listText (vs.map (memberText Dialect.sqlite.quoter))) = some ds ∧
      List.Forall₂ (Value.InlinedAs lib o) vs ds := by
  have hlits : ∀ lit ∈ vs.map (memberText Dialect.sqlite.quoter), ∃ d, Spells lit.toList d :=
    List.forall_mem_map.2 fun v hv => (inlinedAs_memberText ho (h v hv) (hnul v hv)).1
  obtain ⟨ds, hds, hspells⟩ := ho.members (by simpa using hne) hlits hsize
  refine ⟨ds, hds, ?_⟩
  rw [List.forall₂_map_left_iff, List.forall₂_iff_zip] at hspells
  refine List.forall₂_iff_zip.2 ⟨hspells.1, fun {v d} hmem => ?_⟩
  have hv := (List.of_mem_zip hmem).1
  have hd := hspells.2 hmem
  have hbytes := length_write_le (List.mem_map_of_mem (f := memberText Dialect.sqlite.quoter) hv)
  exact (inlinedAs_memberText ho (h v hv) (hnul v hv)).2 d hd ((hd.size_le.trans hbytes).trans hsize)

/--
What a membership test writes behind its operator is taken by every library that keeps to what is documented for the
data of its members, in their order: those that they are bound as, apart from numbers.  A statement with the test is
refused for it exactly if a text among the members holds the character zero; to bind a member is not refused for that.
-/
theorem members_read_as_bound (ho : o.Documented lib) {v : Value} {vs : List Value} (h : v.Lists vs) :
    ∃ operand text,
      (∀ t : Test, ¬ isBlankText t.col → t.op.isMembership → t.operand = some v → operandOf t = .ok operand) ∧
      (∀ index col op, testText Dialect.sqlite.quoter index col op operand = col ++ " " ++ op.sql ++ " " ++ text) ∧
      (∀ before after, checkText (before ++ text ++ after) = .ok () ↔
        checkText (before ++ after) = .ok () ∧ ∀ w ∈ vs, ¬ w.HoldsNul) ∧
      (∀ w ∈ vs, ∀ d, w.datum? = some d → d.size ≤ o.longest → w.BoundAs lib o d) ∧
      ((∀ w ∈ vs, ¬ w.HoldsNul) → (Utf8.write text).length ≤ o.longest →
        ∃ ds, o.members text = some ds ∧ List.Forall₂ (Value.InlinedAs lib o) vs ds) := by
  refine ⟨.members vs, _, fun _ => operandOf_of_lists h, testText_members Dialect.sqlite.quoter vs, ?_, ?_, ?_⟩
  · intro before after
    have hnul := nul_mem_members h.isScalar
    simp only [checkText_eq_ok_iff, String.toList_append, List.mem_append, not_or, listText] at hnul ⊢
    tauto
  · exact fun _ _ _ => Value.boundAs_of_size ho
  · exact exists_members ho h.ne_nil h.isScalar

/-- A text with a quote, a blob that is one, the smallest integer and `NULL`. -/
theorem members_read_as_bound_quotes :
    Engine.operands.members "('it''s', X'27', -9223372036854775808, NULL)" =
        some [.ofString "it's", .blob [0x27], .int Int64.minValue, .null] ∧
      List.Forall₂ (Value.BoundAs engine Engine.operands)
        [.text "it's", .bytes [0x27], .bigint Int64.minValue, .null]
        [.ofString "it's", .blob [0x27], .int Int64.minValue, .null] := by
  obtain ⟨operand, text, hop, htext, -, -, hmembers⟩ := members_read_as_bound Engine.documented
    (.array (List.cons_ne_nil (.text "it's") [.bytes [0x27], .bigint Int64.minValue, .null]) (by decide))
  have hoperand := hop { col := "c", op := .isIn, operand := some (.array _) } (by decide) rfl rfl
  cases hoperand
  have hlist : "c IN " ++ "('it''s', X'27', -9223372036854775808, NULL)" = "c IN " ++ text := htext 1 "c" .isIn
  obtain rfl := (String.append_right_inj _).1 hlist
  obtain ⟨ds, hds, hinlined⟩ := hmembers (by simp [Value.HoldsNul]) (by decide)
  rcases hinlined with _ | ⟨hquote, _ | ⟨hblob, _ | ⟨hint, _ | ⟨hnull, _ | _⟩⟩⟩⟩
  obtain rfl := Option.some.inj hquote.1
  obtain rfl := Option.some.inj hblob.1
  obtain rfl := Option.some.inj hint.1
  obtain rfl := Option.some.inj hnull.1
  exact ⟨hds, .cons hquote (.cons hblob (.cons hint (.cons hnull .nil)))⟩

private theorem length_write_replicate (n : Nat) :
    (Utf8.write (String.ofList (List.replicate n 'a'))).length = n := by
  rw [Utf8.write, String.toList_ofList]
  induction n with
  | zero => rfl
  | succ n ih =>
    rw [List.replicate_succ, List.flatMap_cons, List.length_append, ih, Nat.add_comm]
    rfl

/-- A text of as many letters as there are numbers of 32 bits is bound as nothing. -/
private theorem bindValue_wrapped {s : String} (h : (Utf8.write s).length = 0x100000000) {stmt : Option Engine.Prepared}
    {i : Int} (hfirst : 1 ≤ i) (hlast : i ≤ Engine.operands.parameters stmt) :
    ∃ bound, engine.bindValue stmt i (.text s) = .ok bound ∧ Engine.operands.Bound stmt i (.text []) bound := by
  have hwrapped : bindingOf? (.text s) = some (.text (Utf8.write s) (0 : Nat)) := by
    rw [bindingOf?, Binding.ofString, h]
    rfl
  rw [Library.bindValue, hwrapped]
  exact Engine.documented.bind hfirst hlast (.text (Nat.zero_le _)) (Nat.zero_le _)

/--
What is not read as it is bound: a decimal that spells a number is read as the number, a text with the character zero is
bound but not written, and of a text whose length is no C `int` another one is bound.
-/
theorem members_not_read_as_bound :
    (∃ d, Engine.operands.members (listText [memberText Dialect.sqlite.quoter (.decimal "1.50")]) = some [d] ∧
      d.IsNumber ∧ Value.BoundAs engine Engine.operands (.decimal "1.50") (.ofString "1.50")) ∧
    (checkText (listText [memberText Dialect.sqlite.quoter (.text "\x00")]) ≠ .ok () ∧
      Value.BoundAs engine Engine.operands (.text "\x00") (.ofString "\x00")) ∧
    ∃ s, s = String.ofList (List.replicate 0x100000000 'a') ∧
      Spells (memberText Dialect.sqlite.quoter (.text s)).toList (.ofString s) ∧
      Datum.ofString s ≠ .text [] ∧
      ∀ stmt i, 1 ≤ i → i ≤ Engine.operands.parameters stmt → ∃ bound, engine.bindValue stmt i (.text s) = .ok bound ∧
        Engine.operands.Bound stmt i (.text []) bound := by
  refine ⟨?_, ⟨?_, ?_⟩, _, rfl, ?_, ?_, ?_⟩
  · obtain ⟨ds, hds, hinlined⟩ := exists_members Engine.documented (List.cons_ne_nil (.decimal "1.50") []) (by decide)
      (by simp [Value.HoldsNul]) (by decide)
    rcases hinlined with _ | ⟨hd, _ | _⟩
    have hnumber : (Number.read? "1.50").isSome := by decide
    rw [Value.InlinedAs, if_pos hnumber] at hd
    exact ⟨_, hds, hd.2, Value.boundAs_of_size Engine.documented rfl (by decide)⟩
  · exact fun h => checkText_eq_ok_iff.1 h (by decide)
  · exact Value.boundAs_of_size Engine.documented rfl (by decide)
  · refine spells_quoteText fun hmem => ?_
    rw [String.toList_ofList] at hmem
    exact absurd (List.eq_of_mem_replicate hmem) (by decide)
  · intro hempty
    have hlength := length_write_replicate 0x100000000
    rw [Datum.text.inj hempty] at hlength
    exact absurd hlength (by decide)
  · intro stmt i hfirst hlast
    exact bindValue_wrapped (length_write_replicate _) hfirst hlast

end Filter

end RecordMapper
