import RecordMapper.Proofs.Filter.Leaf

/-!
# Texts as operands of membership tests

A text behind `IN` is either quoted as a whole, or written as it stands if it looks like numbers.

* what is written as it stands is a list of numbers, without the blanks around it, or one number in parentheses
  (`textOperand_cases`);
* digits and blanks are those of Unicode, where SQL knows those of ASCII only; a list of numbers is one in SQL exactly
  if it is made of the characters of ASCII (`isSqlNumberList_iff`);
* so the operand is well-formed SQL exactly in this case (`compile_textOperand`).
-/

namespace RecordMapper

open Text

/-! ### Numbers in SQL -/

/-- The characters of ASCII, without the vertical tab, which is a blank but not in SQL. -/
def IsPlain (c : Char) : Prop := c.toNat < 128 ∧ c ≠ '\x0b'

instance : DecidablePred IsPlain :=
  fun c => inferInstanceAs (Decidable (c.toNat < 128 ∧ c ≠ '\x0b'))

/-- Blanks of SQL, perhaps none. -/
def SqlBlanks (cs : List Char) : Prop := ∀ c ∈ cs, isAsciiBlank c

/-- Digits of SQL, at least one. -/
def SqlDigits (cs : List Char) : Prop := cs ≠ [] ∧ ∀ c ∈ cs, isAsciiDigit c

/-- A number of SQL with a sign or none: digits, and perhaps a point with more digits. -/
inductive IsSqlNumber : List Char → Prop where
  | whole {sign ds : List Char} (hs : sign = [] ∨ sign = ['+'] ∨ sign = ['-']) (hd : SqlDigits ds) :
      IsSqlNumber (sign ++ ds)
  | fraction {sign ds fs : List Char} (hs : sign = [] ∨ sign = ['+'] ∨ sign = ['-']) (hd : SqlDigits ds)
      (hf : SqlDigits fs) : IsSqlNumber (sign ++ (ds ++ '.' :: fs))

/-- One number of SQL with blanks around it. -/
def IsSqlSingle (cs : List Char) : Prop :=
  ∃ a n b, cs = a ++ (n ++ b) ∧ SqlBlanks a ∧ IsSqlNumber n ∧ SqlBlanks b

/-- Numbers of SQL with commas between them, at least one, in one pair of parentheses. -/
def IsSqlNumberList (cs : List Char) : Prop :=
  ∃ items, cs = '(' :: ([','].intercalate items ++ [')']) ∧ items ≠ [] ∧ ∀ item ∈ items, IsSqlSingle item

/-! ### The characters of numbers -/

theorem isAsciiBlank_iff {c : Char} : isAsciiBlank c ↔ isBlank c ∧ IsPlain c := by
  have hchar (d : Char) : c = d ↔ c.toNat = d.toNat := Char.toNat_inj.symm
  simp only [isAsciiBlank, isBlank, IsPlain, Bool.or_eq_true, Bool.and_eq_true, decide_eq_true_eq, beq_iff_eq, hchar,
    ne_eq]
  simp only [Char.reduceToNat]
  omega

theorem isAsciiDigit_iff {c : Char} : isAsciiDigit c ↔ isDecimalDigit c ∧ IsPlain c := by
  have hbounds : isAsciiDigit c ↔ 48 ≤ c.toNat ∧ c.toNat ≤ 57 := by
    simp only [isAsciiDigit, Bool.and_eq_true, decide_eq_true_eq, Char.le_def, UInt32.le_iff_toNat_le]
    exact Iff.rfl
  constructor
  · intro h
    refine ⟨isDecimalDigit_of_isAsciiDigit h, ?_⟩
    obtain ⟨hlow, hhigh⟩ := hbounds.1 h
    refine ⟨by omega, ?_⟩
    rintro rfl
    exact absurd hlow (by decide)
  · rintro ⟨h, hplain, -⟩
    obtain ⟨first, hfirst, h⟩ := List.any_eq_true.1 h
    simp only [Bool.and_eq_true, decide_eq_true_eq] at h
    have hzero : ∀ first ∈ digitZeros, first = 48 ∨ 128 ≤ first := by decide
    rw [hbounds]
    rcases hzero first hfirst with rfl | hhigh <;> omega

/-- No digit is a blank. -/
theorem not_isBlank_of_isDecimalDigit {c : Char} (h : isDecimalDigit c) : ¬ isBlank c := by
  obtain ⟨first, hfirst, h⟩ := List.any_eq_true.1 h
  simp only [Bool.and_eq_true, decide_eq_true_eq] at h
  -- the runs of digits lie between the blanks
  have hruns : ∀ first ∈ digitZeros, (32 < first ∧ first + 9 < 0x85) ∨ (0xA0 < first ∧ first + 9 < 0x1680) ∨
      (0x1680 < first ∧ first + 9 < 0x2000) ∨ 0x3000 < first := by decide
  have hrun := hruns first hfirst
  simp only [isBlank, Bool.or_eq_true, Bool.and_eq_true, decide_eq_true_eq, beq_iff_eq]
  omega

theorem sqlBlanks_iff {cs : List Char} : SqlBlanks cs ↔ Blanks cs ∧ ∀ c ∈ cs, IsPlain c := by
  simp only [SqlBlanks, Blanks, isAsciiBlank_iff, forall_and]

theorem sqlDigits_iff {cs : List Char} : SqlDigits cs ↔ Digits cs ∧ ∀ c ∈ cs, IsPlain c := by
  simp only [SqlDigits, Digits, isAsciiDigit_iff, forall_and, and_assoc]

theorem forall_mem_sign {P : Char → Prop} (hplus : P '+') (hminus : P '-') {sign : List Char}
    (h : sign = [] ∨ sign = ['+'] ∨ sign = ['-']) : ∀ c ∈ sign, P c := by
  rcases h with rfl | rfl | rfl
  · exact List.forall_mem_nil P
  · exact List.forall_mem_singleton.2 hplus
  · exact List.forall_mem_singleton.2 hminus

theorem isPlain_sign {sign : List Char} (h : sign = [] ∨ sign = ['+'] ∨ sign = ['-']) : ∀ c ∈ sign, IsPlain c :=
  forall_mem_sign (by decide) (by decide) h

/-! ### The texts of numbers -/

theorem isSqlNumber_iff {cs : List Char} : IsSqlNumber cs ↔ IsNumber cs ∧ ∀ c ∈ cs, IsPlain c := by
  constructor
  · intro h
    cases h with
    | whole hs hd =>
      obtain ⟨hd, hplain⟩ := sqlDigits_iff.1 hd
      exact ⟨.whole hs hd, List.forall_mem_append.2 ⟨isPlain_sign hs, hplain⟩⟩
    | fraction hs hd hf =>
      obtain ⟨hd, hplain⟩ := sqlDigits_iff.1 hd
      obtain ⟨hf, hfraction⟩ := sqlDigits_iff.1 hf
      have hpoint : IsPlain '.' := by decide
      refine ⟨.fraction hs hd hf, List.forall_mem_append.2 ⟨isPlain_sign hs, ?_⟩⟩
      exact List.forall_mem_append.2 ⟨hplain, List.forall_mem_cons.2 ⟨hpoint, hfraction⟩⟩
  · rintro ⟨h, hplain⟩
    cases h with
    | whole hs hd =>
      exact .whole hs (sqlDigits_iff.2 ⟨hd, (List.forall_mem_append.1 hplain).2⟩)
    | fraction hs hd hf =>
      obtain ⟨hwhole, hfraction⟩ := List.forall_mem_append.1 (List.forall_mem_append.1 hplain).2
      exact .fraction hs (sqlDigits_iff.2 ⟨hd, hwhole⟩) (sqlDigits_iff.2 ⟨hf, (List.forall_mem_cons.1 hfraction).2⟩)

theorem isSqlSingle_iff {cs : List Char} : IsSqlSingle cs ↔ IsSingle cs ∧ ∀ c ∈ cs, IsPlain c := by
  constructor
  · rintro ⟨a, n, b, rfl, ha, hn, hb⟩
    obtain ⟨ha, haplain⟩ := sqlBlanks_iff.1 ha
    obtain ⟨hn, hnplain⟩ := isSqlNumber_iff.1 hn
    obtain ⟨hb, hbplain⟩ := sqlBlanks_iff.1 hb
    exact ⟨⟨a, n, b, rfl, ha, hn, hb⟩,
      List.forall_mem_append.2 ⟨haplain, List.forall_mem_append.2 ⟨hnplain, hbplain⟩⟩⟩
  · rintro ⟨⟨a, n, b, rfl, ha, hn, hb⟩, hplain⟩
    obtain ⟨haplain, hrest⟩ := List.forall_mem_append.1 hplain
    obtain ⟨hnplain, hbplain⟩ := List.forall_mem_append.1 hrest
    exact ⟨a, n, b, rfl, sqlBlanks_iff.2 ⟨ha, haplain⟩, isSqlNumber_iff.2 ⟨hn, hnplain⟩, sqlBlanks_iff.2 ⟨hb, hbplain⟩⟩

/-- Numbers in parentheses are numbers of SQL exactly if they are made of the characters of ASCII. -/
theorem isSqlNumberList_iff {items : List (List Char)} (hne : items ≠ []) (hitems : ∀ item ∈ items, IsSingle item) :
    IsSqlNumberList ('(' :: ([','].intercalate items ++ [')'])) ↔ ∀ c ∈ [','].intercalate items, IsPlain c := by
  have hcomma : ∀ c ∈ [','], IsPlain c := List.forall_mem_singleton.2 (by decide)
  rw [forall_mem_intercalate hcomma]
  constructor
  · rintro ⟨others, hsame, -, hothers⟩ item hitem
    have hinner : [','].intercalate items = [','].intercalate others :=
      List.append_cancel_right (List.cons.inj hsame).2
    have hplain : ∀ c ∈ [','].intercalate others, IsPlain c :=
      (forall_mem_intercalate hcomma).2 fun other hother => (isSqlSingle_iff.1 (hothers other hother)).2
    rw [← hinner] at hplain
    exact (forall_mem_intercalate hcomma).1 hplain item hitem
  · intro hplain
    exact ⟨items, rfl, hne, fun item hitem => isSqlSingle_iff.2 ⟨hitems item hitem, hplain item hitem⟩⟩

/-! ### Texts without the blanks around them -/

theorem not_isBlank_of_isNumber {cs : List Char} (h : IsNumber cs) : ∀ c ∈ cs, ¬ isBlank c := by
  have hsign {sign : List Char} (hs : sign = [] ∨ sign = ['+'] ∨ sign = ['-']) : ∀ c ∈ sign, ¬ isBlank c :=
    forall_mem_sign (by decide) (by decide) hs
  have hdigits {ds : List Char} (hd : Digits ds) : ∀ c ∈ ds, ¬ isBlank c :=
    fun c hc => not_isBlank_of_isDecimalDigit (hd.2 c hc)
  cases h with
  | whole hs hd => exact List.forall_mem_append.2 ⟨hsign hs, hdigits hd⟩
  | fraction hs hd hf =>
    have hpoint : ¬ isBlank '.' := by decide
    refine List.forall_mem_append.2 ⟨hsign hs, List.forall_mem_append.2 ⟨hdigits hd, ?_⟩⟩
    exact List.forall_mem_cons.2 ⟨hpoint, hdigits hf⟩

theorem trim_of_isSingle {cs : List Char} (h : IsSingle cs) : IsNumber (trim cs) := by
  obtain ⟨a, n, b, rfl, ha, hn, hb⟩ := h
  rw [trim_around ha (not_isBlank_of_isNumber hn) hb]
  exact hn

theorem trim_of_isNumberList {cs : List Char} (h : IsNumberList cs) :
    ∃ items, trim cs = '(' :: ([','].intercalate items ++ [')']) ∧ items ≠ [] ∧ ∀ item ∈ items, IsSingle item := by
  obtain ⟨a, items, b, rfl, ha, hne, hitems, hb⟩ := h
  refine ⟨items, ?_, hne, hitems⟩
  have hlist : '(' :: ([','].intercalate items ++ ')' :: b) = '(' :: ([','].intercalate items ++ [')']) ++ b := by
    simp
  rw [hlist]
  refine trim_between ha ?_ ?_ hb
  · rintro c hc
    obtain rfl := Option.some.inj hc
    decide
  · rintro c hc
    rw [← List.cons_append, List.getLast?_concat] at hc
    obtain rfl := Option.some.inj hc
    decide

namespace Filter

/-! ### The operand of a text -/

/-- What a text is as an operand: quoted as a whole, a list of numbers, or one number. -/
theorem textOperand_cases {s : String} {operand : Operand} (h : membershipOperand (.text s) = .ok operand) :
    (¬ LooksNumeric s ∧ operand = .members [.text s]) ∨
      (LooksNumeric s ∧ IsNumberList s.toList ∧ operand = .numbers (trimmed s)) ∨
      (LooksNumeric s ∧ IsSingle s.toList ∧ operand = .number (trimmed s)) := by
  rw [← looksNumeric_iff, ← listShape_accepts_iff, ← singleShape_accepts_iff]
  unfold membershipOperand at h
  by_cases hnumeric : looksNumeric s
  · refine .inr ?_
    by_cases hlist : listShape.accepts s.toList
    · exact .inl ⟨hnumeric, hlist, by simpa [hnumeric, hlist, eq_comm] using h⟩
    · by_cases hsingle : singleShape.accepts s.toList
      · exact .inr ⟨hnumeric, hsingle, by simpa [hnumeric, hlist, hsingle, eq_comm] using h⟩
      · simp [hnumeric, hlist, hsingle] at h
  · exact .inl ⟨hnumeric, by simpa [hnumeric, eq_comm] using h⟩

/-- The text that is written for a text behind the operator. -/
structure TextWritten (q : Quoter) (s text : String) : Prop where
  /-- What does not look like numbers is quoted as a whole. -/
  quoted : ¬ LooksNumeric s → text = "(" ++ q.quote (.text s) ++ ")"
  /-- What looks like numbers is a list of numbers or one number, and is written as it stands. -/
  verbatim : LooksNumeric s →
    (IsNumberList s.toList ∧ text = trimmed s) ∨ (IsSingle s.toList ∧ text = "(" ++ trimmed s ++ ")")
  /-- This is a list of numbers of SQL exactly if it is made of the characters of ASCII. -/
  wellFormed_iff : LooksNumeric s → (IsSqlNumberList text.toList ↔ ∀ c ∈ trim s.toList, IsPlain c)

theorem textWritten_numbers {q : Quoter} {s : String} (hnumeric : LooksNumeric s) (h : IsNumberList s.toList) :
    TextWritten q s (trimmed s) := by
  refine ⟨fun hnot => absurd hnumeric hnot, fun _ => .inl ⟨h, rfl⟩, fun _ => ?_⟩
  obtain ⟨items, htrim, hne, hitems⟩ := trim_of_isNumberList h
  have hopening : IsPlain '(' := by decide
  have hclosing : ∀ c ∈ [')'], IsPlain c := List.forall_mem_singleton.2 (by decide)
  rw [trimmed, String.toList_ofList, htrim, isSqlNumberList_iff hne hitems, List.forall_mem_cons,
    List.forall_mem_append]
  exact ⟨fun hplain => ⟨hopening, hplain, hclosing⟩, fun hplain => hplain.2.1⟩

theorem textWritten_number {q : Quoter} {s : String} (hnumeric : LooksNumeric s) (h : IsSingle s.toList) :
    TextWritten q s ("(" ++ trimmed s ++ ")") := by
  refine ⟨fun hnot => absurd hnumeric hnot, fun _ => .inr ⟨h, rfl⟩, fun _ => ?_⟩
  have hsingle : IsSingle (trim s.toList) :=
    ⟨[], trim s.toList, [], by simp, List.forall_mem_nil _, trim_of_isSingle h, List.forall_mem_nil _⟩
  have htext : ("(" ++ trimmed s ++ ")").toList = '(' :: ([','].intercalate [trim s.toList] ++ [')']) := by
    simp [trimmed]
  have hitems : ∀ item ∈ [trim s.toList], IsSingle item := by simpa using hsingle
  rw [htext, isSqlNumberList_iff (List.cons_ne_nil _ _) hitems, List.intercalate_singleton]

/-- Behind the operator of a membership test with a text stands what is written for the text. -/
theorem leafText_text (q : Quoter) (index : Nat) {t : Test} {s : String} (ht : t.WellFormed)
    (hmembership : t.op.isMembership) (hvalue : t.operand = some (.text s)) :
    ∃ text, leafText q index t = t.col ++ " " ++ t.op.sql ++ " " ++ text ∧ TextWritten q s text := by
  obtain ⟨operand, hoperand⟩ : ∃ operand, operandOf t = .ok operand := by
    rw [exists_ok_iff, errorOf?_operandOf, reasons_eq_nil_iff.2 ht, List.head?_nil]
  have hone : ¬ t.op.comparesOne := by simp [Operator.comparesOne, hmembership]
  obtain ⟨v, hv, hof⟩ : ∃ v, t.operand = some v ∧ membershipOperand v = .ok operand := by
    rcases operandOf_cases hoperand with ⟨htakes, -⟩ | ⟨-, hmembers⟩ | ⟨hbinds, -⟩
    · exact absurd (t.op.takesOperand_of_isMembership hmembership) htakes
    · exact hmembers
    · exact absurd hbinds hone
  obtain rfl := Option.some.inj (hvalue.symm.trans hv)
  have hspace : " (" = " " ++ "(" := rfl
  rw [leafText, if_neg hone, hoperand]
  rcases textOperand_cases hof with ⟨hnot, rfl⟩ | ⟨hnumeric, hlist, rfl⟩ | ⟨hnumeric, hsingle, rfl⟩
  · refine ⟨"(" ++ q.quote (.text s) ++ ")", ?_, fun _ => rfl, fun h => absurd h hnot, fun h => absurd h hnot⟩
    simp only [testText, hspace, List.map_cons, List.map_nil, memberText, Value.literal?, Option.getD_none,
      String.intercalate_singleton, String.append_assoc]
  · exact ⟨trimmed s, rfl, textWritten_numbers hnumeric hlist⟩
  · refine ⟨"(" ++ trimmed s ++ ")", ?_, textWritten_number hnumeric hsingle⟩
    simp only [testText, hspace, String.append_assoc]

/-! ### The tests of a filter -/

theorem mem_tests_iff {f : Filter} {t : Test} : t ∈ f.tests ↔ ∃ e ∈ f, t ∈ e.2.tests := by
  induction f with
  | nil => simp [tests]
  | cons e es ih =>
    obtain ⟨link, c⟩ := e
    rw [tests, List.mem_append, ih]
    simp

theorem wellFormed_of_mem_condition {c : Condition} (h : c.WellFormed) : ∀ t ∈ c.tests, t.WellFormed := by
  induction h with
  | test ht =>
    intro t hmem
    rw [Condition.tests, List.mem_singleton] at hmem
    rwa [hmem]
  | group _ _ _ ih =>
    intro t hmem
    obtain ⟨e, he, hmem⟩ := mem_tests_iff.1 hmem
    exact ih e he t hmem

theorem WellFormed.of_mem_tests {f : Filter} (h : f.WellFormed) {t : Test} (ht : t ∈ f.tests) : t.WellFormed := by
  obtain ⟨e, he, hmem⟩ := mem_tests_iff.1 ht
  exact wellFormed_of_mem_condition (h.each e he) t hmem

/--
What becomes of texts behind `IN` and `NOT IN` in a filter that compiles: the statement is made of the tokens of the
filter and its tests, and behind the operator of such a test stands either the dialect's quoted form of the whole text
in one pair of parentheses, or, if the text looks like numbers, the numbers as they stand.  The latter is well-formed
SQL, one pair of parentheses around numbers of SQL with commas between them, exactly if the text without the blanks
around it is made of the characters of ASCII, without the vertical tab.
-/
theorem compile_textOperand {f : Filter} {q : Quoter} {bound : Nat} {sql : Sql} (h : f.compile q bound = .ok sql) :
    sql.text = tokensText (leafTextAt q bound f.tests) (f.tokens 0) ∧
      ∀ (place : Nat) (t : Test) (s : String), f.tests[place]? = some t → t.op.isMembership →
        t.operand = some (.text s) →
        ∃ text, leafTextAt q bound f.tests place = t.col ++ " " ++ t.op.sql ++ " " ++ text ∧
          TextWritten q s text := by
  have hwellFormed : f.WellFormed := exists_compile_iff.1 ⟨sql, h⟩
  constructor
  · have htext := (written_of_compile h [] [] (n := bound) rfl).2
    simpa using htext
  · intro place t s hplace hmembership hvalue
    have ht : t.WellFormed := hwellFormed.of_mem_tests (List.mem_of_getElem? hplace)
    rw [leafTextAt, hplace]
    exact leafText_text q _ ht hmembership hvalue

namespace Example

/-- Numbers with blanks around them, one number, and a name. -/
def threeTexts : Filter :=
  Filter.and (Filter.and (Filter.and []
    (.test { col := "id", op := .isIn, operand := some (.text " ( 1, -2.5 )") }))
    (.test { col := "rank", op := .notIn, operand := some (.text "7 ") }))
    (.test { col := "tag", op := .isIn, operand := some (.text "it's") })

/-- The Arabic digit one in parentheses. -/
def arabicOne : Filter :=
  Filter.and [] (.test { col := "id", op := .isIn, operand := some (.text "(١)") })

end Example

open Example in
/-- Each of the three texts is written as it should be. -/
theorem compile_textOperand_threeTexts :
    ∃ sql, threeTexts.compile Dialect.sqlite.quoter 0 = .ok sql ∧
      sql.text = "id IN ( 1, -2.5 ) AND rank NOT IN (7) AND tag IN ('it''s')" ∧
      TextWritten Dialect.sqlite.quoter " ( 1, -2.5 )" "( 1, -2.5 )" ∧
      TextWritten Dialect.sqlite.quoter "7 " "(7)" ∧ TextWritten Dialect.sqlite.quoter "it's" "('it''s')" := by
  obtain ⟨sql, hsql⟩ : ∃ sql, threeTexts.compile Dialect.sqlite.quoter 0 = .ok sql := ⟨_, rfl⟩
  obtain ⟨htext, hleaves⟩ := compile_textOperand hsql
  obtain ⟨first, hfirst, hlist⟩ := hleaves 0 _ " ( 1, -2.5 )" rfl rfl rfl
  obtain ⟨second, hsecond, hnumber⟩ := hleaves 1 _ "7 " rfl rfl rfl
  obtain ⟨third, hthird, hquoted⟩ := hleaves 2 _ "it's" rfl rfl rfl
  obtain rfl : "( 1, -2.5 )" = first := (String.append_right_inj "id IN ").1 hfirst
  obtain rfl : "(7)" = second := (String.append_right_inj "rank NOT IN ").1 hsecond
  obtain rfl : "('it''s')" = third := (String.append_right_inj "tag IN ").1 hthird
  exact ⟨sql, hsql, htext, hlist, hnumber, hquoted⟩

open Example in
/-- A digit that is none of ASCII is not refused, and is written as it stands, where SQL reads it as a name. -/
theorem unicode_digit_not_refused :
    (arabicOne.compile Dialect.sqlite.quoter 0).toOption.map Sql.text = some "id IN (١)" ∧
      ¬ IsSqlNumberList "(١)".toList ∧ "(١)" ≠ "(" ++ Dialect.sqlite.quoter.quote (.text "(١)") ++ ")" := by
  have hitems : ∀ item ∈ [['١']], IsSingle item := by decide
  refine ⟨rfl, ?_, by decide⟩
  have hlist := isSqlNumberList_iff (List.cons_ne_nil ['١'] []) hitems
  have hplain : ¬ IsPlain '١' := by decide
  exact fun h => hplain (hlist.1 h '١' (by decide))

end Filter

end RecordMapper
