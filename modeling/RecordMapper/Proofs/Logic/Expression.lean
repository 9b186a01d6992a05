import Mathlib.Data.List.SplitBy

/-!
# Boolean expressions in three-valued logic

Expressions over numbered leaves as SQL writes them: `AND` binds tighter than `OR`, both associate to the left, and
parentheses group.

* the tokens of an expression can be read in one way only (`Parses.unique`), because a reader that keeps what stands
  open in each pair of parentheses finds the expression again (`Parses.read_eq`);
* the disjunction of the runs of a list is computed from left to right (`Truth.ofRuns_cons_and`,
  `Truth.ofRuns_cons_or`).
-/

namespace RecordMapper.Logic

/-! ### Truth values -/

/-- A truth value of SQL. -/
inductive Truth where
  | no
  | unknown
  | yes
  deriving DecidableEq, Repr

namespace Truth

/-- The conjunction. -/
def and : Truth → Truth → Truth
  | .no, _ | _, .no => .no
  | .yes, .yes => .yes
  | _, _ => .unknown

/-- The disjunction. -/
def or : Truth → Truth → Truth
  | .yes, _ | _, .yes => .yes
  | .no, .no => .no
  | _, _ => .unknown

/-- The conjunction of a list. -/
def all (xs : List Truth) : Truth := xs.foldr and .yes

/-- The disjunction of a list. -/
def any (xs : List Truth) : Truth := xs.foldr or .no

theorem and_assoc (a b c : Truth) : (a.and b).and c = a.and (b.and c) := by
  cases a <;> cases b <;> cases c <;> rfl

theorem or_assoc (a b c : Truth) : (a.or b).or c = a.or (b.or c) := by
  cases a <;> cases b <;> cases c <;> rfl

theorem and_yes (a : Truth) : a.and .yes = a := by
  cases a <;> rfl

theorem or_no (a : Truth) : a.or .no = a := by
  cases a <;> rfl

/-- The value of a list whose entries are joined to those before them by `OR`, where marked, or else by `AND`: the
disjunction over the longest runs that no mark cuts of the conjunction of each. -/
def ofRuns (xs : List (Bool × Truth)) : Truth :=
  any ((xs.splitBy fun _ x => !x.1).map fun run => all (run.map Prod.snd))

/-- The first run ends before the first mark. -/
private theorem splitBy_mark_cons (x : Bool × Truth) (xs : List (Bool × Truth)) :
    (x :: xs).splitBy (fun _ x => !x.1) =
      (x :: xs.takeWhile fun x => !x.1) :: (xs.dropWhile fun x => !x.1).splitBy fun _ x => !x.1 := by
  -- nothing is cut inside the prefix without marks, and what follows it starts with one
  have hchain : (x :: xs.takeWhile fun x => !x.1).IsChain fun _ x => !x.1 := by
    refine List.isChain_cons.2 ⟨fun y hy => ?_, ?_⟩
    · exact List.all_eq_true.1 List.all_takeWhile y (List.mem_of_mem_head? hy)
    · exact (List.pairwise_of_forall_mem_list fun _ _ y hy => List.all_eq_true.1 List.all_takeWhile y hy).isChain
  have hcut : ∀ y ∈ (x :: xs.takeWhile fun x => !x.1).getLast?, ∀ z ∈ (xs.dropWhile fun x => !x.1).head?,
      (!z.1) = false := by
    intro _ _ z hz
    have hnot := List.head?_dropWhile_not (fun x : Bool × Truth => !x.1) xs
    rw [Option.mem_def.1 hz] at hnot
    simpa using hnot
  calc (x :: xs).splitBy (fun _ x => !x.1)
      = ((x :: xs.takeWhile fun x => !x.1) ++ xs.dropWhile fun x => !x.1).splitBy fun _ x => !x.1 := by
        rw [List.cons_append, List.takeWhile_append_dropWhile]
    _ = _ := by
        rw [List.splitBy_append hcut, List.splitBy_of_isChain (by simp) hchain]
        rfl

private theorem ofRuns_cons (x : Bool × Truth) (xs : List (Bool × Truth)) :
    ofRuns (x :: xs) =
      (x.2.and (all ((xs.takeWhile fun x => !x.1).map Prod.snd))).or (ofRuns (xs.dropWhile fun x => !x.1)) := by
  rw [ofRuns, splitBy_mark_cons]
  rfl

/-- The mark of a first entry does not matter. -/
theorem ofRuns_cons_mark (m m' : Bool) (a : Truth) (xs : List (Bool × Truth)) :
    ofRuns ((m, a) :: xs) = ofRuns ((m', a) :: xs) := by
  rw [ofRuns_cons, ofRuns_cons]

theorem ofRuns_singleton (m : Bool) (a : Truth) : ofRuns [(m, a)] = a := by
  rw [ofRuns_cons]
  exact (or_no _).trans (and_yes a)

/-- An entry without a mark goes on with the run. -/
theorem ofRuns_cons_and (m : Bool) (a b : Truth) (xs : List (Bool × Truth)) :
    ofRuns ((m, a) :: (false, b) :: xs) = ofRuns ((m, a.and b) :: xs) := by
  rw [ofRuns_cons, ofRuns_cons, List.takeWhile_cons_of_pos (by rfl), List.dropWhile_cons_of_pos (by rfl), and_assoc]
  rfl

/-- A marked entry starts a new run. -/
theorem ofRuns_cons_or (m : Bool) (a b : Truth) (xs : List (Bool × Truth)) :
    ofRuns ((m, a) :: (true, b) :: xs) = a.or (ofRuns ((true, b) :: xs)) := by
  rw [ofRuns_cons, List.takeWhile_cons_of_neg (by simp), List.dropWhile_cons_of_neg (by simp)]
  exact congrArg (Truth.or · _) (and_yes a)

end Truth

/-! ### The grammar -/

/-- A token of an expression; a leaf is known by its place. -/
inductive Token where
  | leaf (place : Nat)
  | and
  | or
  | opening
  | closing
  deriving DecidableEq, Repr

/-- The place of a leaf. -/
def Token.place? : Token → Option Nat
  | .leaf place => some place
  | _ => none

/-- An expression, with the parentheses that it was written with. -/
inductive Expr where
  | leaf (place : Nat)
  | group (e : Expr)
  | and (a b : Expr)
  | or (a b : Expr)
  deriving DecidableEq, Repr

/-- The value of an expression when its leaves have the given values. -/
def Expr.value (v : Nat → Truth) : Expr → Truth
  | .leaf place => v place
  | .group e => e.value v
  | .and a b => (a.value v).and (b.value v)
  | .or a b => (a.value v).or (b.value v)

/-- The syntactic categories, the tightest first. -/
inductive Level where
  | factor
  | conjunction
  | disjunction

/-- The grammar of expressions. -/
inductive Parses : Level → List Token → Expr → Prop where
  | leaf (place : Nat) : Parses .factor [.leaf place] (.leaf place)
  | group {ts : List Token} {e : Expr} (h : Parses .disjunction ts e) :
      Parses .factor (.opening :: (ts ++ [.closing])) (.group e)
  | factor {ts : List Token} {e : Expr} (h : Parses .factor ts e) : Parses .conjunction ts e
  | and {ts us : List Token} {a b : Expr} (ha : Parses .conjunction ts a) (hb : Parses .factor us b) :
      Parses .conjunction (ts ++ .and :: us) (.and a b)
  | conjunction {ts : List Token} {e : Expr} (h : Parses .conjunction ts e) : Parses .disjunction ts e
  | or {ts us : List Token} {a b : Expr} (ha : Parses .disjunction ts a) (hb : Parses .conjunction us b) :
      Parses .disjunction (ts ++ .or :: us) (.or a b)

/-- A clause is an expression, or nothing at all, which asks for nothing and holds. -/
inductive ParsesClause : List Token → Option Expr → Prop where
  | nothing : ParsesClause [] none
  | expression {ts : List Token} {e : Expr} (h : Parses .disjunction ts e) : ParsesClause ts (some e)

/-- The value of a clause. -/
def clauseValue (v : Nat → Truth) : Option Expr → Truth
  | none => .yes
  | some e => e.value v

/-! ### Reading -/

/-- An expression joined to what was read before it, if there was anything. -/
def joined (op : Expr → Expr → Expr) : Option Expr → Expr → Expr
  | none, e => e
  | some before, e => op before e

/-- What is open in a pair of parentheses: the runs that are read, and the factors of the run that is being read. -/
structure Opened where
  runs : Option Expr
  factors : Option Expr

mutual

/-- Reads on where a factor must stand, inside the parentheses `outer`. -/
def readFactor (outer : List Opened) (runs factors : Option Expr) : List Token → Option Expr
  | .leaf place :: ts => readOn outer runs (joined .and factors (.leaf place)) ts
  | .opening :: ts => readFactor (⟨runs, factors⟩ :: outer) none none ts
  | _ => none

/-- Reads on after a factor, which ends the run `run` so far. -/
def readOn (outer : List Opened) (runs : Option Expr) (run : Expr) : List Token → Option Expr
  | [] => if outer.isEmpty then some (joined .or runs run) else none
  | .and :: ts => readFactor outer runs (some run) ts
  | .or :: ts => readFactor outer (some (joined .or runs run)) none ts
  | .closing :: ts =>
    match outer with
    | [] => none
    | o :: outer => readOn outer o.runs (joined .and o.factors (.group (joined .or runs run))) ts
  | _ => none

end

/-- The reader finds a factor, a conjunction or a disjunction again, whatever follows it.  In a disjunction the last run
is still open. -/
private theorem Parses.read {l : Level} {ts : List Token} {e : Expr} (h : Parses l ts e) :
    match l with
    | .factor => ∀ outer runs factors rest,
        readFactor outer runs factors (ts ++ rest) = readOn outer runs (joined .and factors e) rest
    | .conjunction => ∀ outer runs rest, readFactor outer runs none (ts ++ rest) = readOn outer runs e rest
    | .disjunction => ∀ outer rest, ∃ runs run, joined .or runs run = e ∧
        readFactor outer none none (ts ++ rest) = readOn outer runs run rest := by
  -- by induction on the derivation, with whatever may be open around it
  induction h with
  | leaf place =>
    intro outer runs factors rest
    rfl
  | @group ts e _ ih =>
    intro outer runs factors rest
    obtain ⟨runs', run', rfl, hread⟩ := ih (⟨runs, factors⟩ :: outer) (.closing :: rest)
    have happend : .opening :: (ts ++ [.closing]) ++ rest = Token.opening :: (ts ++ .closing :: rest) := by simp
    rw [happend, readFactor, hread, readOn]
  | factor _ ih =>
    intro outer runs rest
    exact ih outer runs none rest
  | @and ts us a b _ _ iha ihb =>
    intro outer runs rest
    rw [List.append_assoc, iha, List.cons_append, readOn, ihb]
    rfl
  | @conjunction ts e _ ih =>
    intro outer rest
    exact ⟨none, e, rfl, ih outer none rest⟩
  | @or ts us a b _ _ iha ihb =>
    intro outer rest
    obtain ⟨runs, run, rfl, hread⟩ := iha outer (.or :: (us ++ rest))
    refine ⟨some (joined .or runs run), b, rfl, ?_⟩
    rw [List.append_assoc, List.cons_append, hread, readOn, ihb]

theorem Parses.read_eq {l : Level} {ts : List Token} {e : Expr} (h : Parses l ts e) :
    readFactor [] none none ts = some e := by
  have hread := h.read
  cases l with
  | factor => simpa [readOn, joined] using hread [] none none []
  | conjunction => simpa [readOn, joined] using hread [] none []
  | disjunction =>
    obtain ⟨runs, run, rfl, hrest⟩ := hread [] []
    simpa [readOn] using hrest

/-- Tokens are those of at most one expression. -/
theorem Parses.unique {l l' : Level} {ts : List Token} {e e' : Expr} (h : Parses l ts e) (h' : Parses l' ts e') :
    e = e' :=
  Option.some.inj (h.read_eq.symm.trans h'.read_eq)

theorem ParsesClause.unique {ts : List Token} {e e' : Option Expr} (h : ParsesClause ts e) (h' : ParsesClause ts e') :
    e = e' := by
  cases h with
  | nothing =>
    cases h' with
    | nothing => rfl
    | expression h' => exact absurd h'.read_eq (by simp [readFactor])
  | expression h =>
    cases h' with
    | nothing => exact absurd h.read_eq (by simp [readFactor])
    | expression h' => exact congrArg some (h.unique h')

/-! ### Runs -/

/-- What stands before a run: nothing, or the runs before it and `OR`. -/
inductive ParsesBefore : List Token → Option Expr → Prop where
  | nothing : ParsesBefore [] none
  | runs {ts : List Token} {e : Expr} (h : Parses .disjunction ts e) : ParsesBefore (ts ++ [.or]) (some e)

theorem ParsesBefore.joined {ps ts : List Token} {before : Option Expr} {e : Expr} (hb : ParsesBefore ps before)
    (h : Parses .conjunction ts e) : Parses .disjunction (ps ++ ts) (joined .or before e) := by
  cases hb with
  | nothing => exact .conjunction h
  | @runs ts' d hd =>
    rw [List.append_assoc]
    exact .or hd h

/-- The value of a run, or of several, after the runs before it. -/
def afterRuns (v : Nat → Truth) (before : Option Expr) (x : Truth) : Truth :=
  match before with
  | none => x
  | some e => (e.value v).or x

theorem value_joined (v : Nat → Truth) (before : Option Expr) (e : Expr) :
    (joined .or before e).value v = afterRuns v before (e.value v) := by
  cases before <;> rfl

theorem afterRuns_or (v : Nat → Truth) (before : Option Expr) (x y : Truth) :
    (afterRuns v before x).or y = afterRuns v before (x.or y) := by
  cases before with
  | none => rfl
  | some e => exact Truth.or_assoc ..

end RecordMapper.Logic
