import RecordMapper.Dialect
import RecordMapper.Proofs.Decimal.Numeral
import RecordMapper.Sqlite.Token

/-!
# Literals as tokens

How SQLite cuts a list of literals into tokens.  A piece of a text is cut by itself if its last token ends where the
piece ends (`Token.CutAs`), which depends on what follows the piece; pieces are put together by `CutAs.append`.

* marks, `NULL` and what is written between quotes are single tokens (`cutAs_mark`, `cutAs_null`, `cutAs_string`,
  `cutAs_blob`);
* so is a number without a sign before a comma or a parenthesis (`cutAs_number`), since no digit, point, letter or
  underscore follows it.
-/

namespace RecordMapper.Sqlite.Token

open Text Decimal Pattern

variable {start n m : Nat} {c : Char} {cs ds rest : List Char} {ts us : List Token} {kind : TokenClass}

/-! ### Cutting a text in two -/

/-- The tokens of a text without a gap in front. -/
def scanFrom (start : Nat) : List Char → List Token
  | [] => []
  | c :: cs =>
    ⟨(shape (c :: cs)).1, (c :: cs).take (shape (c :: cs)).2, start⟩ ::
      scan (start + max 1 (shape (c :: cs)).2) (cs.drop ((shape (c :: cs)).2 - 1))

theorem scan_eq (start : Nat) (cs : List Char) : scan start cs = scanFrom (start + gap cs) (cs.drop (gap cs)) := by
  rw [scan]
  split
  · rename_i h
    rw [h, scanFrom]
  · rename_i h
    rw [h, scanFrom]

theorem scan_nil (start : Nat) : scan start [] = [] := by
  rw [scan_eq, List.drop_nil, scanFrom]

/-- A piece at the start of a text is cut into tokens, and the rest is cut as if it stood alone. -/
def CutAs (start : Nat) (cs rest : List Char) (ts : List Token) : Prop :=
  scan start (cs ++ rest) = ts ++ scan (start + cs.length) rest

theorem CutAs.append (h : CutAs start cs (ds ++ rest) ts) (h' : CutAs (start + cs.length) ds rest us) :
    CutAs start (cs ++ ds) rest (ts ++ us) := by
  unfold CutAs at h h' ⊢
  rw [List.append_assoc, h, h', List.append_assoc, List.length_append, Nat.add_assoc]

theorem CutAs.cons {t : Token} (h : CutAs start [c] (ds ++ rest) [t]) (h' : CutAs (start + 1) ds rest us) :
    CutAs start (c :: ds) rest (t :: us) :=
  CutAs.append h h'

/-- A piece that has the shape of one token is that token. -/
theorem cutAs_of_shape (hne : cs ≠ []) (hgap : gap (cs ++ rest) = 0) (hshape : shape (cs ++ rest) = (kind, cs.length)) :
    CutAs start cs rest [⟨kind, cs, start⟩] := by
  obtain ⟨c, cs, rfl⟩ := List.exists_cons_of_ne_nil hne
  rw [List.cons_append] at hgap hshape
  simp [CutAs, scan_eq start, hgap, scanFrom, hshape]

/-- A text that is a single token. -/
theorem scan_single (hgap : gap cs = 0) (hshape : shape cs = (kind, cs.length)) (hne : cs ≠ []) :
    scan 0 cs = [⟨kind, cs, 0⟩] := by
  have hcut : CutAs 0 cs [] [⟨kind, cs, 0⟩] :=
    cutAs_of_shape hne (by rwa [List.append_nil]) (by rwa [List.append_nil])
  rwa [CutAs, List.append_nil, scan_nil, List.append_nil] at hcut

/-- A blank is no token. -/
theorem cutAs_space : CutAs start [' '] rest [] := by
  have hgap : gap (' ' :: rest) = gap rest + 1 := by
    rw [gap]
    simp [isSpace, Nat.add_comm]
  have hstart : start + (gap rest + 1) = start + 1 + gap rest := by omega
  rw [CutAs, List.singleton_append, List.nil_append, scan_eq, scan_eq, hgap, List.drop_succ_cons, hstart,
    List.length_singleton]

/-- No blank and no comment starts with such a character. -/
theorem gap_of_head (hblank : isSpace c = false) (hmark : c ∉ ['\uFEFF', '/'])
    (hminus : c = '-' → rest.head? ≠ some '-') : gap (c :: rest) = 0 := by
  obtain ⟨hwide, hslash⟩ : c ≠ '\uFEFF' ∧ c ≠ '/' := by simpa using hmark
  have hcomment : ¬ (c = '-' ∧ rest.head? = some '-') := fun h => hminus h.1 h.2
  rw [gap]
  simp only [hblank, Bool.false_and, Bool.false_or, beq_iff_eq, hwide, if_false, hcomment, hslash, false_and]

/-! ### Marks and words -/

theorem cutAs_mark (hc : c ∈ ['(', ')', ',', '+']) : CutAs start [c] rest [⟨.mark, [c], start⟩] := by
  simp only [List.mem_cons, List.not_mem_nil, or_false] at hc
  rcases hc with rfl | rfl | rfl | rfl
  all_goals exact cutAs_of_shape (by simp) (gap_of_head rfl (by decide) (by simp)) rfl

/-- A minus sign starts neither a comment nor an arrow, if a number follows it. -/
theorem cutAs_minus (hminus : rest.head? ≠ some '-') (harrow : rest.head? ≠ some '>') :
    CutAs start ['-'] rest [⟨.mark, ['-'], start⟩] := by
  have hnone : longMarks.find? (·.isPrefixOf ('-' :: rest)) = none := by
    cases rest with
    | nil => rfl
    | cons d rest =>
      have hd : '>' ≠ d := fun h => harrow (congrArg some h.symm)
      simp [longMarks, List.find?, List.isPrefixOf, beq_eq_false_iff_ne.2 hd]
  have hshape : shape ('-' :: rest) = (.mark, 1) := by
    have hname : isNameStart '-' = false := rfl
    have hdigit : isAsciiDigit '-' = false := rfl
    unfold shape
    simp only [hname, hdigit, hnone, Char.reduceEq, if_false, or_false, false_and, Bool.false_eq_true]
    rfl
  exact cutAs_of_shape (by simp) (gap_of_head rfl (by decide) fun _ => hminus) hshape

theorem cutAs_null (hc : isNameChar c = false) :
    CutAs start "NULL".toList (c :: rest) [⟨.word, "NULL".toList, start⟩] := by
  have hword : ("NULL".toList ++ c :: rest).takeWhile isNameChar = "NULL".toList := by
    rw [List.takeWhile_append_of_pos (List.all_eq_true.1 rfl), List.takeWhile_cons_of_neg (by simp [hc]),
      List.append_nil]
  have hshape : shape ("NULL".toList ++ c :: rest) =
      (.word, (("NULL".toList ++ c :: rest).takeWhile isNameChar).length) := rfl
  refine cutAs_of_shape (by decide) (gap_of_head rfl (by decide) nofun) ?_
  rw [hshape, hword]

/-! ### Between quotes -/

private theorem doubled_cons_self (q : Char) (cs : List Char) :
    Dialect.doubled q (q :: cs) = q :: q :: Dialect.doubled q cs := by
  simp [Dialect.doubled]

private theorem doubled_cons_of_ne {q : Char} (h : c ≠ q) (cs : List Char) :
    Dialect.doubled q (c :: cs) = c :: Dialect.doubled q cs := by
  simp [Dialect.doubled, h]

/-- Characters of which the quotes are doubled go on up to a closing quote that no other one follows. -/
theorem quotedLength?_doubled (q : Char) (cs : List Char) (h : rest.head? ≠ some q) :
    quotedLength? q (Dialect.doubled q cs ++ q :: rest) = some ((Dialect.doubled q cs).length + 1) := by
  induction cs with
  | nil =>
    cases rest with
    | nil => simp [Dialect.doubled, quotedLength?]
    | cons d rest =>
      have hd : d ≠ q := fun hd => h (congrArg some hd)
      simp [Dialect.doubled, quotedLength?, hd]
  | cons c cs ih =>
    by_cases hc : c = q
    · subst hc
      simp [doubled_cons_self, quotedLength?, ih]
    · obtain ⟨d, ds, hds⟩ := List.exists_cons_of_ne_nil (l := Dialect.doubled q cs ++ q :: rest) (by simp)
      rw [doubled_cons_of_ne hc, List.cons_append]
      rw [hds] at ih ⊢
      simp [quotedLength?, hc, ih]

/-- Characters of which the quotes are doubled are read back. -/
theorem unquoted_doubled (q : Char) (cs : List Char) : unquoted q (Dialect.doubled q cs ++ [q]) = cs := by
  induction cs with
  | nil => simp [Dialect.doubled, unquoted]
  | cons c cs ih =>
    by_cases hc : c = q
    · subst hc
      simp [doubled_cons_self, unquoted, ih]
    · obtain ⟨d, ds, hds⟩ := List.exists_cons_of_ne_nil (l := Dialect.doubled q cs ++ [q]) (by simp)
      rw [doubled_cons_of_ne hc, List.cons_append]
      rw [hds] at ih ⊢
      simp [unquoted, hc, ih]

theorem cutAs_string (cs : List Char) (h : rest.head? ≠ some '\'') :
    CutAs start ('\'' :: (Dialect.doubled '\'' cs ++ ['\''])) rest
      [⟨.string, '\'' :: (Dialect.doubled '\'' cs ++ ['\'']), start⟩] := by
  have htext : '\'' :: (Dialect.doubled '\'' cs ++ ['\'']) ++ rest =
      '\'' :: (Dialect.doubled '\'' cs ++ '\'' :: rest) := by
    simp
  have hshape : shape ('\'' :: (Dialect.doubled '\'' cs ++ '\'' :: rest)) =
      quotedShape .string '\'' ('\'' :: (Dialect.doubled '\'' cs ++ '\'' :: rest)) := rfl
  refine cutAs_of_shape (by simp) (gap_of_head rfl (by decide) nofun) ?_
  rw [htext, hshape, quotedShape, List.drop_one, List.tail_cons, quotedLength?_doubled _ _ h]
  simp

/-- A blob has two digits for each byte. -/
theorem cutAs_blob (hdigits : ∀ c ∈ cs, isHexDigit c) (heven : cs.length % 2 = 0) :
    CutAs start ('X' :: '\'' :: (cs ++ ['\''])) rest [⟨.blob, 'X' :: '\'' :: (cs ++ ['\'']), start⟩] := by
  have htext : 'X' :: '\'' :: (cs ++ ['\'']) ++ rest = 'X' :: '\'' :: (cs ++ '\'' :: rest) := by
    simp
  have htake : (cs ++ '\'' :: rest).takeWhile isHexDigit = cs := by
    rw [List.takeWhile_append_of_pos hdigits, List.takeWhile_cons_of_neg (by decide), List.append_nil]
  have hshape : shape ('X' :: '\'' :: (cs ++ '\'' :: rest)) = blobShape ('X' :: '\'' :: (cs ++ '\'' :: rest)) := rfl
  have hdrop : ('X' :: '\'' :: (cs ++ '\'' :: rest)).drop (2 + cs.length) = '\'' :: rest := by
    rw [Nat.add_comm, List.drop_succ_cons, List.drop_succ_cons, List.drop_left]
  refine cutAs_of_shape (by simp) (gap_of_head rfl (by decide) nofun) ?_
  rw [htext, hshape]
  simp [blobShape, htake, hdrop, heven]

/-! ### Numbers -/

/-- Digits go on up to a character that is neither a digit nor an underscore. -/
private theorem digitsLength_append {isDigit : Char → Bool} (h : ∀ c ∈ cs, isDigit c)
    (hrest : ∀ c ∈ rest.head?, isDigit c = false ∧ c ≠ '_') : digitsLength isDigit (cs ++ rest) = cs.length := by
  have hall : ∀ c ∈ cs, (isDigit c || c == '_') = true := fun c hc => by simp [h c hc]
  have hnone : rest.takeWhile (fun c => isDigit c || c == '_') = [] := by
    cases rest with
    | nil => rfl
    | cons d rest =>
      have hd := hrest d rfl
      exact List.takeWhile_cons_of_neg (by simp [hd])
  rw [digitsLength, List.takeWhile_append_of_pos hall, hnone, List.append_nil]

/-- A text without the letter of hexadecimal numbers does not start one. -/
private theorem startsHex_eq_false (hlower : 'x' ∉ cs) (hupper : 'X' ∉ cs) (hne : cs ≠ [])
    (hc : c = ',' ∨ c = ')') : startsHex (cs ++ c :: rest) = false := by
  obtain ⟨a, cs, rfl⟩ := List.exists_cons_of_ne_nil hne
  have second {b : Char} {cs : List Char} (hx : b ≠ 'x') (hX : b ≠ 'X') : startsHex (a :: b :: cs) = false := by
    unfold startsHex
    split
    · rename_i heq
      cases heq
      simp [hx, hX]
    · rfl
  cases cs with
  | nil =>
    rcases hc with rfl | rfl
    · exact second (by decide) (by decide)
    · exact second (by decide) (by decide)
  | cons b cs =>
    refine second ?_ ?_
    · rintro rfl
      simp at hlower
    · rintro rfl
      simp at hupper

private theorem exponentLength_append (h : Matches (optional exponentShape) cs) (hc : c = ',' ∨ c = ')') :
    numberShape.exponentLength (cs ++ c :: rest) = cs.length := by
  rcases exists_of_exponent h with rfl | ⟨letter, sign, digits, rfl, hletter, hsign, hne, hdigits⟩
  · rcases hc with rfl | rfl
    · simp [numberShape.exponentLength]
    · simp [numberShape.exponentLength]
  · have hend : ∀ d ∈ (c :: rest).head?, isAsciiDigit d = false ∧ d ≠ '_' := by
      rcases hc with rfl | rfl
      · simp
        decide
      · simp
        decide
    have hlen := digitsLength_append hdigits hend
    obtain ⟨d, digits, rfl⟩ := List.exists_cons_of_ne_nil hne
    have hd : isAsciiDigit d = true := hdigits d (by simp)
    have hplus : d ≠ '+' := by
      rintro rfl
      exact absurd hd (by decide)
    have hminus : d ≠ '-' := by
      rintro rfl
      exact absurd hd (by decide)
    rw [List.cons_append] at hlen
    rcases hsign with rfl | rfl | rfl
    · simp [numberShape.exponentLength, hletter, hplus, hminus, hd, hlen]
      omega
    · simp [numberShape.exponentLength, hletter, hd, hlen]
      omega
    · simp [numberShape.exponentLength, hletter, hd, hlen]
      omega

/-- The class and the length of a number of decimal digits up to its exponent. -/
def mantissaShape (cs : List Char) : TokenClass × Nat :=
  let whole := digitsLength isAsciiDigit cs
  if (cs.drop whole).head? = some '.' then (.float, whole + 1 + digitsLength isAsciiDigit (cs.drop (whole + 1)))
  else (.integer, whole)

/-- A number of decimal digits goes on with its exponent, if it has one. -/
private theorem numberShape_of_mantissa (hhex : startsHex cs = false) (hmantissa : mantissaShape cs = (kind, n))
    (hexponent : numberShape.exponentLength (cs.drop n) = m) (hplain : '_' ∉ cs.take (n + m)) :
    numberShape cs = (if m = 0 then kind else .float, n + m) := by
  unfold mantissaShape at hmantissa
  dsimp only at hmantissa
  simp only [numberShape, hhex, Bool.false_and, Bool.false_eq_true, if_false, hmantissa, hexponent]
  cases m with
  | zero =>
    rw [Nat.add_zero] at hplain
    simp [hplain]
  | succ m => simp [hplain]

private theorem mantissaShape_append (h : Matches magnitudeShape cs)
    (hrest : ∀ c ∈ rest.head?, isAsciiDigit c = false ∧ c ∉ ['_', '.']) :
    ∃ kind, (kind = .integer ∨ kind = .float) ∧ mantissaShape (cs ++ rest) = (kind, cs.length) := by
  have hend : ∀ c ∈ rest.head?, isAsciiDigit c = false ∧ c ≠ '_' := by
    intro c hc
    obtain ⟨hdigit, hmark⟩ := hrest c hc
    exact ⟨hdigit, fun h => hmark (by simp [h])⟩
  obtain ⟨whole, hwhole, ⟨rfl, -⟩ | ⟨fraction, hfraction, rfl, -⟩⟩ := exists_of_magnitude h
  · have hpoint : rest.head? ≠ some '.' := fun h => (hrest '.' h).2 (by simp)
    refine ⟨.integer, .inl rfl, ?_⟩
    simp only [mantissaShape, digitsLength_append hwhole hend, List.drop_left, hpoint, if_false]
  · have hwholeEnd : ∀ c ∈ ('.' :: (fraction ++ rest)).head?, isAsciiDigit c = false ∧ c ≠ '_' := by
      simp
      decide
    have hdrop : (whole ++ '.' :: (fraction ++ rest)).drop (whole.length + 1) = fraction ++ rest := by
      rw [List.drop_length_add_append]
      rfl
    have hlen : (whole ++ '.' :: fraction).length = whole.length + 1 + fraction.length := by
      simp only [List.length_append, List.length_cons]
      omega
    refine ⟨.float, .inr rfl, ?_⟩
    rw [List.append_assoc, List.cons_append]
    simp only [mantissaShape, digitsLength_append hwhole hwholeEnd, List.drop_left, List.head?_cons, if_true, hdrop,
      digitsLength_append hfraction hend, hlen]

private theorem not_mem_of_digit (h : isAsciiDigit c) (hnone : cs.any isAsciiDigit = false) : c ∉ cs := fun hmem =>
  List.any_eq_false.1 hnone c hmem h

private theorem isSpace_of_digit (h : isAsciiDigit c) : isSpace c = false := by
  have hspace : c ≠ ' ' := fun hc => not_mem_of_digit h (by decide) (List.mem_singleton.2 hc)
  have hlow : '0' ≤ c := by
    simp only [isAsciiDigit, Bool.and_eq_true, decide_eq_true_eq] at h
    exact h.1
  have hcontrol : ¬ c ≤ '\r' := fun hle => absurd (Char.le_trans hlow hle) (by decide)
  simp [isSpace, hspace, hcontrol]

/-- What starts with a digit, or with a point before one, is a number. -/
private theorem shape_magnitude (h : Matches magnitudeShape cs) : shape (cs ++ rest) = number (cs ++ rest) := by
  have digit {d : Char} {ds : List Char} (hd : isAsciiDigit d) : shape (d :: ds) = number (d :: ds) := by
    have hne : d ∉ ['\'', '"', '`', '[', 'x', 'X'] := not_mem_of_digit hd (by decide)
    simp only [List.mem_cons, List.not_mem_nil, or_false, not_or] at hne
    have hname : isNameStart d = false := by simp [isNameStart, hd]
    simp only [shape, hne, or_self, false_and, if_false, hname, Bool.false_eq_true, hd, true_or, if_true]
  obtain ⟨whole, hwhole, ⟨rfl, hne⟩ | ⟨fraction, hfraction, rfl, hne⟩⟩ := exists_of_magnitude h
  · obtain ⟨d, ds, rfl⟩ := List.exists_cons_of_ne_nil hne
    exact digit (hwhole d (by simp))
  · cases whole with
    | nil =>
      obtain ⟨d, ds, rfl⟩ := List.exists_cons_of_ne_nil (hne rfl)
      have hd : isAsciiDigit d = true := hfraction d (by simp)
      have hname : isNameStart '.' = false := rfl
      simp [shape, hname, hd]
    | cons d ds => exact digit (hwhole d (by simp))

/-- A magnitude starts with a digit or a point. -/
theorem head_magnitude (h : Matches magnitudeShape cs) :
    ∃ d ds, cs = d :: ds ∧ (isAsciiDigit d ∨ d = '.') := by
  obtain ⟨whole, hwhole, ⟨rfl, hne⟩ | ⟨fraction, -, rfl, -⟩⟩ := exists_of_magnitude h
  · obtain ⟨d, ds, rfl⟩ := List.exists_cons_of_ne_nil hne
    exact ⟨d, ds, rfl, .inl (hwhole d (by simp))⟩
  · cases whole with
    | nil => exact ⟨'.', fraction, rfl, .inr rfl⟩
    | cons d ds => exact ⟨d, ds ++ '.' :: fraction, rfl, .inl (hwhole d (by simp))⟩

/-- Such a character is no sign. -/
theorem ne_of_head_magnitude {mark : Char} (h : isAsciiDigit c ∨ c = '.') (hdigit : isAsciiDigit mark = false)
    (hpoint : mark ≠ '.') : c ≠ mark := by
  rintro rfl
  rcases h with h | h
  · rw [hdigit] at h
    cases h
  · exact hpoint h

private theorem append_ne_nil_of_magnitude (h : Matches magnitudeShape cs) (exponent : List Char) :
    cs ++ exponent ≠ [] := by
  obtain ⟨d, ds, rfl, -⟩ := head_magnitude h
  simp

private theorem gap_magnitude (h : Matches magnitudeShape cs) : gap (cs ++ rest) = 0 := by
  obtain ⟨d, ds, rfl, hd | rfl⟩ := head_magnitude h
  · have hmark : d ∉ ['\uFEFF', '/'] := not_mem_of_digit hd (by decide)
    have hminus : d ≠ '-' := ne_of_head_magnitude (.inl hd) rfl (by decide)
    exact gap_of_head (isSpace_of_digit hd) hmark fun h => absurd h hminus
  · exact gap_of_head rfl (by decide) nofun

/-- What follows the digits and the point of a number is neither. -/
private theorem head_exponent {exponent : List Char} (h : Matches (optional exponentShape) exponent)
    (hc : c = ',' ∨ c = ')') : ∀ d ∈ (exponent ++ c :: rest).head?, isAsciiDigit d = false ∧ d ∉ ['_', '.'] := by
  rcases exists_of_exponent h with rfl | ⟨letter, sign, digits, rfl, rfl | rfl, -⟩
  · rcases hc with rfl | rfl
    · simp
      decide
    · simp
      decide
  · simp
    decide
  · simp
    decide

private theorem number_append {exponent : List Char} (h : Matches magnitudeShape cs)
    (hexponent : Matches (optional exponentShape) exponent) (hc : c = ',' ∨ c = ')') :
    ∃ kind, (kind = .integer ∨ kind = .float) ∧
      number (cs ++ exponent ++ c :: rest) = (kind, (cs ++ exponent).length) := by
  have hnumeral := numeral_of_magnitude h hexponent
  have hplain : '_' ∉ cs ++ exponent := notMem_of_numeral hnumeral rfl (by decide)
  have hne := append_ne_nil_of_magnitude h exponent
  have hhex : startsHex (cs ++ exponent ++ c :: rest) = false :=
    startsHex_eq_false (notMem_of_numeral hnumeral rfl (by decide)) (notMem_of_numeral hnumeral rfl (by decide)) hne hc
  obtain ⟨kind, hkind, hmantissa⟩ := mantissaShape_append h (head_exponent hexponent hc)
  have hlen : numberShape.exponentLength (exponent ++ c :: rest) = exponent.length :=
    exponentLength_append hexponent hc
  have hdrop : (cs ++ exponent ++ c :: rest).drop cs.length = exponent ++ c :: rest := by
    rw [List.append_assoc, List.drop_left]
  have htake : (cs ++ exponent ++ c :: rest).take (cs.length + exponent.length) = cs ++ exponent := by
    rw [← List.length_append, List.take_left]
  rw [← List.append_assoc] at hmantissa
  have hnumber := numberShape_of_mantissa hhex hmantissa (by rw [hdrop, hlen]) (by rwa [htake])
  -- no letter goes on with the number
  have hjunk : ((cs ++ exponent ++ c :: rest).drop (cs.length + exponent.length)).takeWhile isNameChar = [] := by
    rw [← List.length_append, List.drop_left]
    refine List.takeWhile_cons_of_neg ?_
    rcases hc with rfl | rfl
    · decide
    · decide
  refine ⟨if exponent.length = 0 then kind else .float, ?_, ?_⟩
  · split
    · exact hkind
    · exact .inr rfl
  · rw [number, hnumber]
    simp only [hjunk, List.length_nil, if_true, List.length_append]

/-- A number without a sign is one token before a comma or a parenthesis. -/
theorem cutAs_number {exponent : List Char} (start : Nat) (rest : List Char) (h : Matches magnitudeShape cs)
    (hexponent : Matches (optional exponentShape) exponent) (hc : c = ',' ∨ c = ')') :
    ∃ kind, (kind = .integer ∨ kind = .float) ∧
      CutAs start (cs ++ exponent) (c :: rest) [⟨kind, cs ++ exponent, start⟩] := by
  obtain ⟨kind, hkind, hnumber⟩ := number_append h hexponent hc
  have hshape : shape (cs ++ exponent ++ c :: rest) = (kind, (cs ++ exponent).length) := by
    rw [← hnumber, List.append_assoc, shape_magnitude h]
  have hgap : gap (cs ++ exponent ++ c :: rest) = 0 := by
    rw [List.append_assoc, gap_magnitude h]
  exact ⟨kind, hkind, cutAs_of_shape (append_ne_nil_of_magnitude h exponent) hgap hshape⟩

end RecordMapper.Sqlite.Token
