import Mathlib.Data.List.Flatten
import RecordMapper.Proofs.Dialect.Lexeme
import RecordMapper.Sqlite.Connection

/-!
# What is documented of the library

The documented behaviour of libsqlite3, as far as anything is concluded from it.

* `Library.Transacts`: a database starts without a transaction, and `BEGIN`, `COMMIT` and `ROLLBACK` open and close one
  whichever way they are run; a statement that fails on a conflict to be resolved by `ROLLBACK` closes it.
* `Binding.Gives` is the meaning of the calls that bind parameters, and `Spells` the syntax of literals.
* `Operands.Documented`: parameters and lists of literals are taken for these data, within the limit of the library.
-/

namespace RecordMapper.Sqlite

open Text Decimal Pattern

variable {δ σ : Type}

/-! ### Transactions -/

/-- The statements that open and close transactions, and whether none is open after one has succeeded. -/
inductive TransactionText : String → Bool → Prop where
  | begin : TransactionText "BEGIN" false
  | commit : TransactionText "COMMIT" true
  | rollback : TransactionText "ROLLBACK" true

/-- A statement has a single step, which succeeds or fails. -/
inductive Stepping.Ends : Stepping δ → Bool → δ → Prop where
  | done (after : δ) : Ends (.done after) true after
  | failed (why : Refusal) (after : δ) : Ends (.failed why after) false after

/-- What is documented about transactions.  `rollsBack` are the statements that are about to break a constraint whose
conflicts are resolved by `ROLLBACK`. -/
structure Library.Transacts (lib : Library δ σ) (rollsBack : σ → δ → Prop) : Prop where
  opened {path : String} {flags : List OpenFlag} {db : δ} (h : lib.openDatabase path flags = .ok db) :
    lib.isAutocommit db = true
  setTimeout (ms : Int) (db : δ) : lib.isAutocommit (lib.setTimeout ms db) = lib.isAutocommit db
  exec {sql : String} {closed : Bool} {db after : δ} (htext : TransactionText sql closed)
    (h : lib.exec sql db = (.ok (), after)) : lib.isAutocommit after = closed
  /-- The statements give no rows. -/
  steps {sql : String} {closed : Bool} {stmt : σ} {db ready : δ} (htext : TransactionText sql closed)
    (h : lib.prepare sql (cInt sql.utf8ByteSize) db = (.ok stmt, ready)) :
    ∃ succeeds after, (lib.steps stmt ready).Ends succeeds after ∧ (succeeds → lib.isAutocommit after = closed)
  rollback {stmt : σ} {db : δ} (h : rollsBack stmt db) :
    ∃ after, (lib.steps stmt db).Ends false after ∧ lib.isAutocommit after = true
  /-- To give up a statement that has come to its end does nothing. -/
  finalize {stmt : σ} {db after : δ} {succeeds : Bool} (h : (lib.steps stmt db).Ends succeeds after) :
    lib.isAutocommit (lib.finalize stmt after) = lib.isAutocommit after

/-! ### Parameters -/

/-- The number of bytes that a call hands over. -/
def Binding.size : Binding → Nat
  | .null | .int64 _ | .double _ => 0
  | .text _ length | .blob _ length => length.toNat

/-- The datum that a parameter holds after a call.  A length says how many of the bytes are meant; what comes of bytes
that are not there is not said. -/
inductive Binding.Gives : Binding → Datum → Prop where
  | null : Gives .null .null
  | int64 (n : Int64) : Gives (.int64 n) (.int n)
  | double {x : Float} (h : ¬ isNaN x) : Gives (.double x) (.real x)
  | text {s : Bytes} {length : Nat} (h : length ≤ s.length) : Gives (.text s length) (.text (s.take length))
  | blob {s : Bytes} {length : Nat} (h : length ≤ s.length) : Gives (.blob s length) (.blob (s.take length))

/-! ### Literals -/

/-- The integers of 64 bits. -/
def IsWord (i : Int) : Prop := -0x8000000000000000 ≤ i ∧ i < 0x8000000000000000

/-- A literal and the datum that it stands for.  Strings stand between quotes, and a quote in a string stands twice; blobs
have two hexadecimal digits for each byte.  Digits with a sign are an integer if they fit one; all other numbers are
doubles, and it is not said which. -/
inductive Spells : List Char → Datum → Prop where
  | null : Spells "NULL".toList .null
  | text {cs s : List Char} (h : Dialect.sqlite.readString cs = some (s, [])) (hnul : '\x00' ∉ s) :
    Spells ('\'' :: cs) (.ofString (String.ofList s))
  | blob {cs : List Char} {bs : Bytes} (h : hexBytes? cs = some bs) : Spells ('X' :: '\'' :: (cs ++ ['\''])) (.blob bs)
  | integer {cs : List Char} {i : Int} (h : readInt? cs = some i) (hfits : IsWord i) :
    Spells cs (.int (Int64.ofInt i))
  | real {cs : List Char} (h : Matches numeralShape cs) (hlarge : ∀ i, readInt? cs = some i → ¬ IsWord i) (x : Float) :
    Spells cs (.real x)

/-- Whether the datum is an integer or a double. -/
def Datum.IsNumber : Datum → Prop
  | .int _ | .real _ => True
  | .null | .text _ | .blob _ => False

/-- The number of bytes of a text or of a blob. -/
def Datum.size : Datum → Nat
  | .text s | .blob s => s.length
  | .null | .int _ | .real _ => 0

namespace Spells

variable {cs s : List Char} {d d' : Datum} {bs : Bytes} {i : Int}

/-- What has the form of a number is a number. -/
theorem isNumber (h : Spells cs d) (hnumeral : Matches numeralShape cs) : d.IsNumber := by
  cases h with
  | null => exact absurd (List.mem_cons_self : 'N' ∈ "NULL".toList) (notMem_of_numeral hnumeral rfl (by decide))
  | text _ _ => exact absurd List.mem_cons_self (notMem_of_numeral hnumeral rfl (by decide))
  | blob _ => exact absurd List.mem_cons_self (notMem_of_numeral hnumeral rfl (by decide))
  | integer _ _ => trivial
  | real _ _ x => trivial

/-- A literal that is no double stands for one datum. -/
theorem unique (h : Spells cs d) (h' : Spells cs d') (hreal : ∀ x, d ≠ .real x) : d' = d := by
  -- literals of two forms differ in how they begin, unless both are numbers
  have hnumeral : Matches numeralShape cs → d.IsNumber := h.isNumber
  cases h with
  | null =>
    generalize hcs : "NULL".toList = cs at h' hnumeral
    cases h' with
    | null => rfl
    | text _ _ | blob _ => simp at hcs
    | integer hread _ => exact (hnumeral (numeral_of_readInt hread)).elim
    | real hmatches _ _ => exact (hnumeral hmatches).elim
  | @text body s hread hnul =>
    generalize hcs : '\'' :: body = cs at h' hnumeral
    cases h' with
    | null | blob _ => simp at hcs
    | text hread' _ =>
      rw [← (List.cons.inj hcs).2, hread] at hread'
      obtain ⟨rfl, -⟩ := Prod.mk.inj (Option.some.inj hread')
      rfl
    | integer hread _ => exact (hnumeral (numeral_of_readInt hread)).elim
    | real hmatches _ _ => exact (hnumeral hmatches).elim
  | @blob digits bs hbytes =>
    generalize hcs : 'X' :: '\'' :: (digits ++ ['\'']) = cs at h' hnumeral
    cases h' with
    | null | text _ _ => simp at hcs
    | blob hbytes' =>
      simp only [List.cons.injEq, true_and, List.append_cancel_right_eq] at hcs
      rw [← hcs, hbytes] at hbytes'
      rw [Option.some.inj hbytes']
    | integer hread _ => exact (hnumeral (numeral_of_readInt hread)).elim
    | real hmatches _ _ => exact (hnumeral hmatches).elim
  | integer hread hfits =>
    have hnumber := h'.isNumber (numeral_of_readInt hread)
    cases h' with
    | null | text _ _ | blob _ => exact hnumber.elim
    | integer hread' _ =>
      rw [hread] at hread'
      rw [Option.some.inj hread']
    | real _ hlarge _ => exact absurd hfits (hlarge _ hread)
  | real _ _ x => exact absurd rfl (hreal x)

/-- A string is read from characters of its text. -/
private theorem sublist_of_readString {rest : List Char} (h : Dialect.sqlite.readString cs = some (s, rest)) :
    s.Sublist cs := by
  fun_induction Dialect.readString .sqlite cs generalizing s with
  | case1 => cases h
  | case2 cs ih =>
    obtain ⟨⟨s, rest⟩, hs, heq⟩ := Option.map_eq_some_iff.1 h
    cases heq
    exact ((ih hs).cons _).cons_cons _
  | case3 =>
    cases h
    exact List.nil_sublist _
  | case4 _ _ hescape => cases hescape.2
  | case5 _ _ hescape => cases hescape.2
  | case6 c cs _ _ ih =>
    obtain ⟨⟨s, rest⟩, hs, heq⟩ := Option.map_eq_some_iff.1 h
    cases heq
    exact (ih hs).cons_cons _

private theorem length_le_of_hexBytes (h : hexBytes? cs = some bs) : bs.length ≤ cs.length := by
  fun_induction hexBytes? cs generalizing bs with
  | case1 =>
    cases h
    exact Nat.le_refl _
  | case2 => cases h
  | case3 a b cs x y bs hbs hy hx ih =>
    cases h
    have hrest := ih hbs
    simp only [List.length_cons]
    omega
  | case4 => cases h

private theorem length_le_of_encoded (cs : List Char) : cs.length ≤ (cs.flatMap String.utf8EncodeChar).length := by
  induction cs with
  | nil => exact Nat.le_refl _
  | cons c cs ih =>
    have hpos := c.utf8Size_pos
    simp only [List.flatMap_cons, List.length_append, List.length_cons, String.length_utf8EncodeChar]
    omega

/-- A literal has as many bytes as its datum, or more. -/
theorem size_le {lit : String} (h : Spells lit.toList d) : d.size ≤ (Utf8.write lit).length := by
  rw [Utf8.write]
  generalize lit.toList = cs at h
  cases h with
  | null | integer _ _ | real _ _ _ => exact Nat.zero_le _
  | @text body s hread _ =>
    have hsub := (((sublist_of_readString hread).cons '\'').flatMap String.utf8EncodeChar).length_le
    rw [← String.toList_ofList (l := s)] at hsub
    exact hsub
  | blob hbytes =>
    have hbytes := length_le_of_hexBytes hbytes
    refine Nat.le_trans ?_ (length_le_of_encoded _)
    simp only [Datum.size, List.length_cons, List.length_append]
    omega

end Spells

/-- Literals between commas and parentheses. -/
def listText (lits : List String) : String := "(" ++ ", ".intercalate lits ++ ")"

private theorem sublist_intercalate {lits : List String} {lit : String} (h : lit ∈ lits) :
    lit.toList.Sublist (", ".intercalate lits).toList := by
  induction lits with
  | nil => exact absurd h List.not_mem_nil
  | cons first lits ih =>
    cases lits with
    | nil =>
      obtain rfl := List.mem_singleton.1 h
      rw [String.intercalate_singleton]
    | cons second lits =>
      rw [String.intercalate_cons_cons, String.toList_append, String.toList_append]
      rcases List.mem_cons.1 h with rfl | h
      · exact (List.sublist_append_left _ _).trans (List.sublist_append_left _ _)
      · exact (ih h).trans (List.sublist_append_right _ _)

/-- A list has more bytes than each of its literals. -/
theorem length_write_le {lits : List String} {lit : String} (h : lit ∈ lits) :
    (Utf8.write lit).length ≤ (Utf8.write (listText lits)).length := by
  have hsub : lit.toList.Sublist (listText lits).toList := by
    rw [listText, String.toList_append, String.toList_append]
    exact ((sublist_intercalate h).trans (List.sublist_append_right _ _)).trans (List.sublist_append_left _ _)
  exact (hsub.flatMap String.utf8EncodeChar).length_le

/-! ### Operands -/

/-- What a library takes the operands of conditions for. -/
structure Operands (σ : Type) where
  /-- The number of parameters of a statement. -/
  parameters : σ → Int
  /-- The datum that a parameter holds, by its number from 1. -/
  held : σ → Int → Datum
  /-- The data of the members, if the text stands behind `IN` in a statement; none if the statement is refused for it. -/
  members : String → Option (List Datum)
  /-- The number of bytes that data and statements can have. -/
  longest : Nat

/-- A statement with one more datum for a parameter. -/
structure Operands.Bound (o : Operands σ) (stmt : σ) (i : Int) (d : Datum) (bound : σ) : Prop where
  parameters : o.parameters bound = o.parameters stmt
  held : o.held bound i = d
  others (j : Int) (h : j ≠ i) : o.held bound j = o.held stmt j

/-- What is documented about operands. -/
structure Operands.Documented (o : Operands σ) (lib : Library δ σ) : Prop where
  longest_lt : o.longest < 0x80000000
  bind {stmt : σ} {i : Int} {b : Binding} {d : Datum} (hfirst : 1 ≤ i) (hlast : i ≤ o.parameters stmt)
    (hgives : b.Gives d) (hsize : b.size ≤ o.longest) : ∃ bound, lib.bind stmt i b = .ok bound ∧ o.Bound stmt i d bound
  members {lits : List String} (hne : lits ≠ []) (hlits : ∀ lit ∈ lits, ∃ d, Spells lit.toList d)
    (hsize : (Utf8.write (listText lits)).length ≤ o.longest) :
    ∃ ds, o.members (listText lits) = some ds ∧ List.Forall₂ (fun lit d => Spells lit.toList d) lits ds

end RecordMapper.Sqlite
