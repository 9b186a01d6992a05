import RecordMapper.Filter.Compile

/-!
# Compiling filters part by part

* a filter of one test is compiled to that test (`Filter.compile_test`);
* the text of a filter is empty only if the filter is (`Filter.text_ne_of_compile`);
* a group that is joined to other conditions is compiled on its own, after their parameters, and put in parentheses
  after their text (`Filter.compile_and_group`).
-/

namespace RecordMapper.Filter

/-- A filter of one test is that test. -/
theorem compile_test {link : Link} (hlink : link.isOr = false) (t : Test) (q : Quoter) (bound : Nat) :
    Filter.compile [(link, .test t)] q bound =
      match operandOf t with
      | .ok operand =>
        .ok { text := testText q (bound + 1) t.col t.op operand, binds := Piece.binds (.test t.col t.op operand) }
      | .error reason => .error ⟨reason, t.toJson.text⟩ := by
  unfold compile pieces
  rw [entryPieces, hlink]
  simp only [Bool.and_false, Bool.false_eq_true, if_false, conditionPieces, entryPieces]
  cases operandOf t with
  | error reason => rfl
  | ok operand => simp [render, renderFrom]

theorem renderFrom_append (q : Quoter) (n : Nat) (ps ps' : List Piece) :
    renderFrom q n (ps ++ ps') = renderFrom q n ps ++ renderFrom q (n + (ps.flatMap Piece.binds).length) ps' := by
  induction ps generalizing n with
  | nil => simp [renderFrom]
  | cons p ps ih =>
    cases p with
    | test col op operand => simp [renderFrom, ih, Nat.add_assoc, String.append_assoc]
    | _ => simp [renderFrom, ih, Piece.binds, String.append_assoc]

/-- The pieces of a list are those of its parts, of which only the first may be without a link. -/
theorem entryPieces_append {first : Bool} {es es' : List (Link × Condition)} (hne : es ≠ []) {ps : List Piece}
    (h : entryPieces first (es ++ es') = .ok ps) :
    ∃ as bs, entryPieces first es = .ok as ∧ entryPieces false es' = .ok bs ∧ ps = as ++ bs := by
  induction es generalizing first ps with
  | nil => exact absurd rfl hne
  | cons e es ih =>
    obtain ⟨link, c⟩ := e
    rw [List.cons_append, entryPieces] at h
    rw [entryPieces]
    split at h
    · exact nomatch h
    rename_i hfirst
    rw [if_neg hfirst]
    cases hc : conditionPieces link c with
    | error fault => simp [hc] at h
    | ok cs =>
      cases hrest : entryPieces false (es ++ es') with
      | error fault => simp [hc, hrest] at h
      | ok rest =>
        rw [hc, hrest] at h
        obtain rfl := Except.ok.inj h
        cases es with
        | nil => exact ⟨_, rest, by rw [entryPieces], hrest, by rw [List.append_nil]⟩
        | cons e es =>
          obtain ⟨as, bs, has, hbs, rfl⟩ := ih (List.cons_ne_nil e es) hrest
          exact ⟨_, bs, by rw [has], hbs, by rw [List.append_assoc]⟩

theorem testText_ne (q : Quoter) (index : Nat) (col : String) (op : Operator) (operand : Operand) :
    testText q index col op operand ≠ "" := by
  cases operand <;> simp [testText]

/-- No condition is written as the empty text. -/
theorem renderFrom_condition_ne {link : Link} {c : Condition} {ps : List Piece} (h : conditionPieces link c = .ok ps)
    (q : Quoter) (bound : Nat) : renderFrom q bound ps ≠ "" := by
  cases c with
  | test t =>
    rw [conditionPieces] at h
    split at h
    · obtain rfl := Except.ok.inj h
      simp [renderFrom, testText_ne]
    · exact nomatch h
  | group entries =>
    cases entries with
    | nil => simp [conditionPieces] at h
    | cons e entries =>
      rw [conditionPieces] at h
      split at h
      · obtain rfl := Except.ok.inj h
        simp [renderFrom]
      · exact nomatch h

/-- The text of a filter is empty only if the filter is. -/
theorem text_ne_of_compile {f : Filter} (hne : f ≠ []) {q : Quoter} {bound : Nat} {sql : Sql}
    (h : f.compile q bound = .ok sql) : sql.text ≠ "" := by
  obtain ⟨⟨link, c⟩, es, rfl⟩ := List.exists_cons_of_ne_nil hne
  unfold compile at h
  cases hps : pieces ((link, c) :: es) with
  | error fault => simp [hps] at h
  | ok ps =>
    rw [hps] at h
    obtain rfl := Except.ok.inj h
    have hfirst : entryPieces true ([(link, c)] ++ es) = .ok ps := hps
    obtain ⟨as, bs, has, -, rfl⟩ := entryPieces_append (List.cons_ne_nil _ _) hfirst
    rw [entryPieces] at has
    split at has
    · exact nomatch has
    · cases hc : conditionPieces link c with
      | error fault => simp [hc] at has
      | ok cs =>
        rw [hc] at has
        obtain rfl := Except.ok.inj has
        simp [render, renderFrom_append, renderFrom_condition_ne hc]

theorem entryPieces_group {link : Link} {e : Link × Condition} {es : List (Link × Condition)} {ps : List Piece}
    (h : entryPieces false [(link, .group (e :: es))] = .ok ps) :
    ∃ gs, entryPieces true (e :: es) = .ok gs ∧ ps = linkPiece link :: .openGroup :: (gs ++ [.closeGroup]) := by
  rw [entryPieces, Bool.false_and, if_neg Bool.false_ne_true, conditionPieces, entryPieces] at h
  cases hgroup : entryPieces true (e :: es) with
  | error fault => simp [hgroup] at h
  | ok gs =>
    rw [hgroup] at h
    obtain rfl := Except.ok.inj h
    exact ⟨gs, rfl, by rw [List.append_nil, if_neg Bool.false_ne_true]⟩

/-- A group that is joined to conditions is written after them in parentheses, its parameters after theirs. -/
theorem compile_and_group {f g : Filter} (hf : f ≠ []) (hg : g ≠ []) {q : Quoter} {bound : Nat} {sql : Sql}
    (h : (f.and (.group g)).compile q bound = .ok sql) :
    ∃ a b, f.compile q bound = .ok a ∧ g.compile q (bound + a.binds.length) = .ok b ∧
      sql = { text := a.text ++ " AND (" ++ b.text ++ ")", binds := a.binds ++ b.binds } := by
  unfold compile pieces Filter.and push at h
  cases hps : entryPieces true (f ++ [(f.nextLink, .group g)]) with
  | error fault => simp [hps] at h
  | ok ps =>
    rw [hps] at h
    obtain rfl := Except.ok.inj h
    obtain ⟨as, bs, has, hbs, rfl⟩ := entryPieces_append hf hps
    obtain ⟨e, es, rfl⟩ := List.exists_cons_of_ne_nil hg
    obtain ⟨gs, hgs, rfl⟩ := entryPieces_group hbs
    have hand : linkPiece f.nextLink = .and := rfl
    have hopen : " AND " ++ "(" = " AND (" := rfl
    refine ⟨render q bound as, render q (bound + (as.flatMap Piece.binds).length) gs, ?_, ?_, ?_⟩
    · rw [compile, pieces, has]
    · rw [compile, pieces, hgs]
      rfl
    · simp [render, renderFrom_append, renderFrom, hand, Piece.binds, ← String.append_assoc, hopen]

end RecordMapper.Filter
