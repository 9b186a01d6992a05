import RecordMapper.Dialect
import RecordMapper.Proofs.Decimal.Numeral
import Mathlib.Data.List.Forall2

/-!
# Lists of literals, read

How a dialect reads a list of literals: `Dialect.lexemes` cuts a text into parentheses, commas and literals, blanks
before them skipped.  A quote inside a string stands twice, and MySQL takes a backslash together with the character
after it.  A word is `NULL` or a number; the word `X` before a quote makes a blob of what is quoted, except in
Postgres, where a blob is a string that starts with `\x`.

* what a dialect writes between quotes is read back, character by character (`readString_escaped`), and so are the
  bytes of a blob (`hexBytes?_hexDigits`);
* literals that are read one by one are read in a list, up to its own closing parenthesis (`lexemes_list`).
-/

namespace RecordMapper

open Text Decimal

/-- A lexeme of a list of literals. -/
inductive Lexeme where
  | opening
  | closing
  | comma
  | null
  /-- A number as it is spelled. -/
  | number (cs : List Char)
  /-- The characters that a string stands for. -/
  | string (cs : List Char)
  | blob (bs : List UInt8)
  deriving DecidableEq, Repr

/-- A list in parentheses, its literals separated by commas. -/
def Lexeme.listOf (ls : List Lexeme) : List Lexeme :=
  .opening :: (ls.intersperse .comma ++ [.closing])

/-- The bytes that pairs of hexadecimal digits stand for. -/
def hexBytes? : List Char → Option (List UInt8)
  | [] => some []
  | [_] => none
  | a :: b :: cs =>
    match hexValue? a, hexValue? b, hexBytes? cs with
    | some x, some y, some bs => some (UInt8.ofNat (16 * x + y) :: bs)
    | _, _, _ => none

/-- What a backslash and a character stand for in a string of MySQL. -/
def unescaped (c : Char) : List Char :=
  match c with
  | '0' => ['\x00']
  | 'b' => ['\x08']
  | 'n' => ['\n']
  | 'r' => ['\r']
  | 't' => ['\t']
  | 'Z' => ['\x1a']
  | '%' | '_' => ['\\', c]
  | c => [c]

/-- The characters of which words are made. -/
def isWordChar (c : Char) : Bool :=
  c.isAlphanum || ['_', '.', '+', '-'].contains c

namespace Dialect

/-- Whether a backslash in a string belongs to the character after it. -/
def hasEscapes : Dialect → Bool
  | .mysql => true
  | .postgres | .sqlite => false

/-- The string after its opening quote, and the text after its closing one. -/
def readString (d : Dialect) : List Char → Option (List Char × List Char)
  | [] => none
  | c :: cs =>
    if c = '\'' then
      match cs with
      | '\'' :: cs => (d.readString cs).map fun (s, rest) => ('\'' :: s, rest)
      | cs => some ([], cs)
    else if c = '\\' ∧ d.hasEscapes then
      match cs with
      | [] => none
      | e :: cs => (d.readString cs).map fun (s, rest) => (unescaped e ++ s, rest)
    else (d.readString cs).map fun (s, rest) => (c :: s, rest)

/-- The blob after its opening quote, and the text after its closing one. -/
def readBlob (cs : List Char) : Option (Lexeme × List Char) :=
  match cs.dropWhile (· ≠ '\'') with
  | [] => none
  | _ :: rest => (hexBytes? (cs.takeWhile (· ≠ '\''))).map fun bs => (.blob bs, rest)

/-- The word at the start of a text, and the text after it; a quote after the word belongs to it. -/
def readWord (d : Dialect) (cs : List Char) : Option (Lexeme × List Char) :=
  let word := cs.takeWhile isWordChar
  match cs.dropWhile isWordChar with
  | '\'' :: rest => if d ≠ .postgres ∧ (word = ['X'] ∨ word = ['x']) then readBlob rest else none
  | rest =>
    if numeralShape.accepts word then some (.number word, rest)
    else if word.map Char.toUpper = ['N', 'U', 'L', 'L'] then some (.null, rest)
    else none

/-- The lexeme at the start of a text, and the text after it. -/
def readLexeme (d : Dialect) : List Char → Option (Lexeme × List Char)
  | [] => none
  | c :: cs =>
    if c = '(' then some (.opening, cs)
    else if c = ')' then some (.closing, cs)
    else if c = ',' then some (.comma, cs)
    else if c = '\'' then (d.readString cs).map fun (s, rest) => (.string s, rest)
    else d.readWord (c :: cs)

/-! ### Reading gets on -/

private theorem rest_of_map {f : List Char → List Char} {r : Option (List Char × List Char)} {s rest : List Char}
    (h : (r.map fun (s, rest) => (f s, rest)) = some (s, rest)) : ∃ s', r = some (s', rest) := by
  obtain ⟨⟨s', rest'⟩, hr, heq⟩ := Option.map_eq_some_iff.1 h
  cases heq
  exact ⟨s', hr⟩

theorem length_of_readString {d : Dialect} {cs s rest : List Char} (h : d.readString cs = some (s, rest)) :
    rest.length < cs.length := by
  fun_induction readString d cs generalizing s with
  | case1 => cases h
  | case2 cs ih =>
    obtain ⟨s', hr⟩ := rest_of_map h
    have hlt := ih hr
    simp only [List.length_cons]
    omega
  | case3 cs hne =>
    cases h
    simp
  | case4 => cases h
  | case5 c hc he e cs ih =>
    obtain ⟨s', hr⟩ := rest_of_map h
    have hlt := ih hr
    simp only [List.length_cons]
    omega
  | case6 c cs hc he ih =>
    obtain ⟨s', hr⟩ := rest_of_map h
    have hlt := ih hr
    simp only [List.length_cons]
    omega

private theorem length_of_readBlob {cs rest : List Char} {l : Lexeme} (h : readBlob cs = some (l, rest)) :
    rest.length < cs.length := by
  unfold readBlob at h
  split at h
  · cases h
  · rename_i c after hafter
    obtain ⟨bs, -, heq⟩ := Option.map_eq_some_iff.1 h
    cases heq
    have hle := (List.dropWhile_sublist (l := cs) (· ≠ '\'')).length_le
    rw [hafter, List.length_cons] at hle
    omega

private theorem length_of_readWord {d : Dialect} {cs rest : List Char} {l : Lexeme}
    (h : d.readWord cs = some (l, rest)) : rest.length < cs.length := by
  have hcs := congrArg List.length (List.takeWhile_append_dropWhile (p := isWordChar) (l := cs))
  rw [List.length_append] at hcs
  -- neither a number nor `NULL` is an empty word
  have shorter (hne : cs.takeWhile isWordChar ≠ []) : (cs.dropWhile isWordChar).length < cs.length := by
    have := List.length_pos_iff.2 hne
    omega
  unfold readWord at h
  dsimp only at h
  split at h
  · rename_i after hafter
    split at h
    · have hlt := length_of_readBlob h
      rw [hafter, List.length_cons] at hcs
      omega
    · cases h
  · split at h
    · rename_i hnum
      cases h
      exact shorter fun hnil => by rw [hnil] at hnum; exact absurd hnum (by decide)
    · split at h
      · rename_i hnull
        cases h
        exact shorter fun hnil => by simp [hnil] at hnull
      · cases h

theorem length_of_readLexeme {d : Dialect} {cs rest : List Char} {l : Lexeme}
    (h : d.readLexeme cs = some (l, rest)) : rest.length < cs.length := by
  unfold readLexeme at h
  split at h
  · cases h
  · rename_i c cs
    split_ifs at h
    · cases h
      simp
    · cases h
      simp
    · cases h
      simp
    · obtain ⟨⟨s, rest'⟩, hr, heq⟩ := Option.map_eq_some_iff.1 h
      cases heq
      exact (length_of_readString hr).trans (by simp)
    · exact length_of_readWord h

/-- The lexemes of a text, blanks before them skipped. -/
def lexemes (d : Dialect) (cs : List Char) : Option (List Lexeme) :=
  if cs.dropWhile isAsciiBlank = [] then some []
  else
    match _ : d.readLexeme (cs.dropWhile isAsciiBlank) with
    | none => none
    | some (l, rest) => (d.lexemes rest).map (l :: ·)
termination_by cs.length
decreasing_by
  exact (length_of_readLexeme ‹_›).trans_le (List.dropWhile_sublist _).length_le

theorem lexemes_nil (d : Dialect) : d.lexemes [] = some [] := by
  rw [lexemes, List.dropWhile_nil, if_pos rfl]

theorem lexemes_blank (d : Dialect) {c : Char} (hc : isAsciiBlank c) (cs : List Char) :
    d.lexemes (c :: cs) = d.lexemes cs := by
  rw [lexemes, lexemes, List.dropWhile_cons_of_pos hc]

private theorem readLexeme_blank (d : Dialect) {c : Char} (hc : isAsciiBlank c) (cs : List Char) :
    d.readLexeme (c :: cs) = none := by
  have hblank : c = ' ' ∨ c = '\t' ∨ c = '\n' ∨ c = '\r' ∨ c = '\x0c' := by
    simpa [isAsciiBlank, or_assoc] using hc
  rcases hblank with rfl | rfl | rfl | rfl | rfl <;> rfl

/-- A lexeme is the first one of a text that starts with it. -/
theorem lexemes_of_read {d : Dialect} {cs rest : List Char} {l : Lexeme} (h : d.readLexeme cs = some (l, rest)) :
    d.lexemes cs = (d.lexemes rest).map (l :: ·) := by
  -- no lexeme starts with a blank, so that nothing is skipped
  have hdrop : cs.dropWhile isAsciiBlank = cs := by
    cases cs with
    | nil => rfl
    | cons c cs =>
      refine List.dropWhile_cons_of_neg fun hc => ?_
      rw [readLexeme_blank d hc] at h
      cases h
  have hne : cs ≠ [] := by
    rintro rfl
    cases h
  rw [lexemes, hdrop, if_neg hne]
  split
  · rename_i hread
    cases hread.symm.trans h
  · rename_i l' rest' hread
    cases hread.symm.trans h
    rfl

/-! ### What is written is read -/

private theorem escaped_cons (d : Dialect) (c : Char) (cs : List Char) :
    d.escaped (c :: cs) = d.escaped [c] ++ d.escaped cs := by
  cases d <;> simp [escaped, doubled]

/-- Doubling a character adds no other ones. -/
theorem mem_doubled {q c : Char} {cs : List Char} : c ∈ doubled q cs ↔ c ∈ cs := by
  have hone (a : Char) : c ∈ (if a = q then [q, q] else [a]) ↔ c = a := by
    split
    · rename_i h
      simp [h]
    · simp
  simp only [doubled, List.mem_flatMap, hone, exists_eq_right']

/-- Where quotes alone need to be escaped, a text without them stands as it is. -/
theorem escaped_of_notMem {d : Dialect} (hd : ¬ d.hasEscapes) {cs : List Char} (h : '\'' ∉ cs) :
    d.escaped cs = cs := by
  have hdoubled : doubled '\'' cs = cs := by
    induction cs with
    | nil => rfl
    | cons c cs ih =>
      obtain ⟨hc, hcs⟩ := not_or.1 (mt List.mem_cons.2 h)
      rw [doubled, List.flatMap_cons, if_neg (Ne.symm hc), List.singleton_append]
      exact congrArg (c :: ·) (ih hcs)
  cases d with
  | mysql => exact absurd rfl hd
  | _ => exact hdoubled

private theorem escaped_other {d : Dialect} {c : Char} (hquote : c ≠ '\'') (hback : ¬ (c = '\\' ∧ d.hasEscapes)) :
    d.escaped [c] = [c] := by
  cases d with
  | mysql =>
    have hne : c ≠ '\\' := fun h => hback ⟨h, rfl⟩
    simp [escaped, doubled, hne, hquote]
  | _ => simp [escaped, doubled, hquote]

private theorem readString_closing (d : Dialect) {rest : List Char} (h : rest.head? ≠ some '\'') :
    d.readString ('\'' :: rest) = some ([], rest) := by
  rw [readString.eq_def]
  simp only [if_pos]
  split
  · simp at h
  · rfl

private theorem readString_escape {d : Dialect} (hd : d.hasEscapes) (c : Char) (cs : List Char) :
    d.readString ('\\' :: c :: cs) = (d.readString cs).map fun (s, rest) => (unescaped c ++ s, rest) := by
  have hquote : ¬ '\\' = '\'' := by decide
  rw [readString.eq_def]
  simp only [if_neg hquote, hd, and_self, if_pos]

private theorem readString_cons {d : Dialect} {c : Char} (hquote : c ≠ '\'') (hback : ¬ (c = '\\' ∧ d.hasEscapes))
    (cs : List Char) : d.readString (c :: cs) = (d.readString cs).map fun (s, rest) => (c :: s, rest) := by
  rw [readString.eq_def]
  simp only [if_neg hquote, if_neg hback]

/-- What a dialect writes between quotes is read back, up to a closing quote that no other one follows. -/
theorem readString_escaped (d : Dialect) (cs : List Char) {rest : List Char} (h : rest.head? ≠ some '\'') :
    d.readString (d.escaped cs ++ '\'' :: rest) = some (cs, rest) := by
  induction cs with
  | nil =>
    have hnil : d.escaped [] = [] := by cases d <;> rfl
    rw [hnil, List.nil_append, readString_closing d h]
  | cons c cs ih =>
    rw [escaped_cons, List.append_assoc]
    by_cases hquote : c = '\''
    · subst hquote
      have hpair : d.escaped ['\''] = ['\'', '\''] := by cases d <;> rfl
      simp only [hpair, List.cons_append, List.nil_append, readString, if_pos, ih, Option.map_some]
    · by_cases hback : c = '\\' ∧ d.hasEscapes
      · obtain ⟨rfl, hd⟩ := hback
        have hpair : d.escaped ['\\'] = ['\\', '\\'] := by
          cases d with
          | mysql => rfl
          | _ => cases hd
        rw [hpair, List.cons_append, List.cons_append, List.nil_append, readString_escape hd, ih, Option.map_some]
        rfl
      · rw [escaped_other hquote hback, List.singleton_append, readString_cons hquote hback, ih, Option.map_some]

theorem hexValue?_hexDigit : ∀ n < 16, hexValue? (hexDigit n).toUpper = some n := by
  decide

/-- The bytes of a blob are read back from their digits. -/
theorem hexBytes?_hexDigits (bs : List UInt8) : hexBytes? (hexDigits bs) = some bs := by
  induction bs with
  | nil => rfl
  | cons b bs ih =>
    have hb := b.toNat_lt
    have hcons : hexDigits (b :: bs) =
        (hexDigit (b.toNat / 16)).toUpper :: (hexDigit (b.toNat % 16)).toUpper :: hexDigits bs := rfl
    have hsum : 16 * (b.toNat / 16) + b.toNat % 16 = b.toNat := by omega
    rw [hcons, hexBytes?, hexValue?_hexDigit _ (by omega), hexValue?_hexDigit _ (by omega), ih]
    simp only [hsum, UInt8.ofNat_toNat]

theorem notMem_hexDigits {c : Char} (hdigit : ∀ n < 16, (hexDigit n).toUpper ≠ c) (bs : List UInt8) :
    c ∉ hexDigits bs := by
  intro h
  obtain ⟨b, -, hb⟩ := List.mem_flatMap.1 h
  have hlt := b.toNat_lt
  simp only [List.map_cons, List.map_nil, List.mem_cons, List.not_mem_nil, or_false] at hb
  rcases hb with hb | hb
  · exact hdigit _ (by omega) hb.symm
  · exact hdigit _ (by omega) hb.symm

/-! ### Literals in a list -/

/-- The text is read as the lexeme where a comma or a closing parenthesis follows. -/
def ReadsAs (d : Dialect) (cs : List Char) (l : Lexeme) : Prop :=
  ∀ c rest, c = ',' ∨ c = ')' → d.readLexeme (cs ++ c :: rest) = some (l, c :: rest)

theorem readsAs_string (d : Dialect) (cs : List Char) :
    d.ReadsAs ('\'' :: (d.escaped cs ++ ['\''])) (.string cs) := by
  intro c rest hc
  -- what follows is no quote, with which the string would go on
  have hfollows : (c :: rest).head? ≠ some '\'' := by
    rcases hc with rfl | rfl <;> simp
  have hread := readString_escaped d cs hfollows
  rw [List.cons_append, List.append_assoc, List.singleton_append, readLexeme]
  simp only [hread, Option.map_some]
  rfl

private theorem readLexeme_word (d : Dialect) {c : Char} (hc : isWordChar c) (cs : List Char) :
    d.readLexeme (c :: cs) = d.readWord (c :: cs) := by
  have hne {mark : Char} (hmark : isWordChar mark = false) : c ≠ mark := by
    rintro rfl
    exact absurd (hmark.symm.trans hc) (by decide)
  rw [readLexeme, if_neg (hne (by decide)), if_neg (hne (by decide)), if_neg (hne (by decide)),
    if_neg (hne (by decide))]

theorem readsAs_blob {d : Dialect} (h : d ≠ .postgres) (bs : List UInt8) :
    d.ReadsAs ('X' :: '\'' :: (hexDigits bs ++ ['\''])) (.blob bs) := by
  intro c rest _
  have hdigits : ∀ e ∈ hexDigits bs, decide (e ≠ '\'') := fun e he =>
    decide_eq_true fun heq => notMem_hexDigits (by decide) bs (heq ▸ he)
  have hblob : readBlob (hexDigits bs ++ '\'' :: c :: rest) = some (.blob bs, c :: rest) := by
    rw [readBlob, List.dropWhile_append_of_pos hdigits, List.takeWhile_append_of_pos hdigits]
    simp [hexBytes?_hexDigits]
  have htake : ('X' :: '\'' :: (hexDigits bs ++ '\'' :: c :: rest)).takeWhile isWordChar = ['X'] := rfl
  have hdrop : ('X' :: '\'' :: (hexDigits bs ++ '\'' :: c :: rest)).dropWhile isWordChar =
      '\'' :: (hexDigits bs ++ '\'' :: c :: rest) := rfl
  rw [List.cons_append, List.cons_append, List.append_assoc, List.singleton_append, readLexeme_word d (by decide),
    readWord, htake, hdrop]
  simp only [h, ne_eq, not_false_eq_true, true_or, and_self, if_pos, hblob]

/-- A word is read up to the mark after it. -/
private theorem readLexeme_append (d : Dialect) {cs : List Char} (hne : cs ≠ []) (h : ∀ e ∈ cs, isWordChar e)
    {c : Char} (hc : c = ',' ∨ c = ')') (rest : List Char) :
    d.readLexeme (cs ++ c :: rest) =
      if numeralShape.accepts cs then some (.number cs, c :: rest)
      else if cs.map Char.toUpper = ['N', 'U', 'L', 'L'] then some (.null, c :: rest)
      else none := by
  have hmark : ¬ isWordChar c := by
    rcases hc with rfl | rfl <;> decide
  have htake : (cs ++ c :: rest).takeWhile isWordChar = cs := by
    rw [List.takeWhile_append_of_pos h, List.takeWhile_cons_of_neg hmark, List.append_nil]
  have hdrop : (cs ++ c :: rest).dropWhile isWordChar = c :: rest := by
    rw [List.dropWhile_append_of_pos h, List.dropWhile_cons_of_neg hmark]
  obtain ⟨e, es, rfl⟩ := List.exists_cons_of_ne_nil hne
  rw [List.cons_append, readLexeme_word d (h e (by simp)), ← List.cons_append, readWord, htake, hdrop]
  rcases hc with rfl | rfl <;> rfl

private theorem isWordChar_of_numeral {cs : List Char} (h : numeralShape.Matches cs) : ∀ c ∈ cs, isWordChar c := by
  have mark : ∀ c ∈ ['+', '-', '.', 'e', 'E'], isWordChar c := List.all_eq_true.1 (by decide)
  intro c hc
  rcases all_of_numeral h c hc with hdigit | hmark
  · rw [isAsciiDigit_eq_isDigit] at hdigit
    simp [isWordChar, Char.isAlphanum, hdigit]
  · exact mark c hmark

theorem readsAs_number (d : Dialect) {cs : List Char} (h : numeralShape.Matches cs) :
    d.ReadsAs cs (.number cs) := by
  intro c rest hc
  have haccepts : numeralShape.accepts cs := Pattern.accepts_iff_matches.2 h
  have hne : cs ≠ [] := by
    rintro rfl
    exact absurd haccepts (by decide)
  rw [readLexeme_append d hne (isWordChar_of_numeral h) hc, if_pos haccepts]

theorem readsAs_null (d : Dialect) : d.ReadsAs "NULL".toList .null := by
  intro c rest hc
  rw [readLexeme_append d (by decide) (List.all_eq_true.1 rfl) hc]
  rfl

private theorem lexemes_comma (d : Dialect) (cs : List Char) :
    d.lexemes (',' :: ' ' :: cs) = (d.lexemes cs).map (.comma :: ·) := by
  have hread : d.readLexeme (',' :: ' ' :: cs) = some (.comma, ' ' :: cs) := rfl
  rw [lexemes_of_read hread, lexemes_blank d rfl]

private theorem lexemes_opening (d : Dialect) (cs : List Char) :
    d.lexemes ('(' :: cs) = (d.lexemes cs).map (.opening :: ·) :=
  lexemes_of_read rfl

private theorem lexemes_closing (d : Dialect) (cs : List Char) :
    d.lexemes (')' :: cs) = (d.lexemes cs).map (.closing :: ·) :=
  lexemes_of_read rfl

/-- Each literal is read where the comma or the parenthesis after it stands. -/
private theorem lexemes_members {d : Dialect} {lits : List String} {ls : List Lexeme}
    (h : List.Forall₂ (fun lit l => d.ReadsAs lit.toList l) lits ls) (hne : lits ≠ []) (rest : List Char) :
    d.lexemes ((", ".intercalate lits).toList ++ ')' :: rest) =
      (d.lexemes rest).map (ls.intersperse .comma ++ .closing :: ·) := by
  induction h with
  | nil => exact absurd rfl hne
  | @cons lit l lits ls hread htail ih =>
    cases htail with
    | nil =>
      rw [String.intercalate_singleton, lexemes_of_read (hread ')' rest (.inr rfl)), lexemes_closing, Option.map_map]
      rfl
    | @cons lit' l' lits ls hread' htail =>
      have hlits : (", ".intercalate (lit :: lit' :: lits)).toList ++ ')' :: rest =
          lit.toList ++ ',' :: ' ' :: ((", ".intercalate (lit' :: lits)).toList ++ ')' :: rest) := by
        rw [String.intercalate_cons_cons]
        simp
      rw [hlits, lexemes_of_read (hread ',' _ (.inl rfl)), lexemes_comma, ih (by simp), Option.map_map,
        Option.map_map]
      rfl

/-- Literals that are read one by one are read in a list, and the list ends with its own parenthesis. -/
theorem lexemes_list {d : Dialect} {lits : List String} {ls : List Lexeme}
    (h : List.Forall₂ (fun lit l => d.ReadsAs lit.toList l) lits ls) (hne : lits ≠ []) (rest : List Char) :
    d.lexemes (("(" ++ ", ".intercalate lits ++ ")").toList ++ rest) =
      (d.lexemes rest).map (Lexeme.listOf ls ++ ·) := by
  have htext : ("(" ++ ", ".intercalate lits ++ ")").toList ++ rest =
      '(' :: ((", ".intercalate lits).toList ++ ')' :: rest) := by
    simp
  rw [htext, lexemes_opening, lexemes_members h hne, Option.map_map]
  congr 1
  funext ls'
  simp [Lexeme.listOf]

end Dialect

end RecordMapper
