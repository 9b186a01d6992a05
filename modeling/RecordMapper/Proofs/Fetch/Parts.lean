import RecordMapper.Fetch.Select

/-!
# The parts of a fetch

Each key of a fetch names one part.  To reset a key changes its part alone (`Fetch.sameAt_without`,
`Fetch.isSet_without`), and a query depends only on the parts that it uses (`Select.Agrees.sql`).

* so to ignore keys is the same as to reset them, and neither an ignored part nor the relations of a fetch matter
  (`ignored_eq_without`).
-/

namespace RecordMapper

namespace Fetch

variable {f g h : Fetch} {j k : FetchKey} {keys : List FetchKey}

/-- Two fetches have the same part under a key. -/
def SameAt (key : FetchKey) (f g : Fetch) : Prop :=
  match key with
  | .distinct => f.distinct = g.distinct
  | .cols => f.cols = g.cols
  | .filter => f.filter = g.filter
  | .group => f.group = g.group
  | .having => f.having = g.having
  | .order => f.order = g.order
  | .limit => f.limit = g.limit
  | .offset => f.offset = g.offset
  | .relations => f.relations = g.relations

theorem SameAt.refl (k : FetchKey) (f : Fetch) : SameAt k f f := by
  cases k <;> rfl

theorem SameAt.symm (hfg : SameAt k f g) : SameAt k g f := by
  cases k <;> exact Eq.symm hfg

theorem SameAt.trans (hfg : SameAt k f g) (hgh : SameAt k g h) : SameAt k f h := by
  cases k <;> exact Eq.trans hfg hgh

theorem SameAt.isSet (hfg : SameAt k f g) : f.isSet k = g.isSet k := by
  cases k <;> simp_all [SameAt, Fetch.isSet]

/-! ### Reset parts -/

theorem sameAt_reset (hjk : j ≠ k) : SameAt j (f.reset k) f := by
  cases j <;> cases k <;> first | rfl | exact absurd rfl hjk

theorem isSet_reset : (f.reset k).isSet k = false := by
  cases k <;> rfl

theorem sameAt_without (hj : j ∉ keys) : SameAt j (f.without keys) f := by
  induction keys generalizing f with
  | nil => exact .refl j f
  | cons k keys ih =>
    rw [List.mem_cons, not_or] at hj
    exact (ih hj.2).trans (sameAt_reset hj.1)

/-- A part is set when it was set and its key is not reset. -/
theorem isSet_without : (f.without keys).isSet j = (f.isSet j && !keys.contains j) := by
  induction keys generalizing f with
  | nil => simp [without]
  | cons k keys ih =>
    have hcons : f.without (k :: keys) = (f.reset k).without keys := rfl
    rw [hcons, ih]
    by_cases hjk : j = k
    · subst hjk
      simp [isSet_reset]
    · rw [(sameAt_reset hjk).isSet]
      simp [hjk]

end Fetch

namespace Select

variable {s t : Select} {q : Quoter}

/-- Two queries over the same tables use the same parts, and have these parts in common; the relations of a fetch are
nothing to a query. -/
structure Agrees (s t : Select) : Prop where
  table : s.table = t.table
  joins : s.joins = t.joins
  uses : ∀ key, key ≠ .relations → s.uses key = t.uses key
  part : ∀ key, key ≠ .relations → s.uses key = true → s.fetch.SameAt key t.fetch

namespace Agrees

/-- What a part decides is the same in both queries, given that it is where the parts are the same. -/
theorem ite {α : Type} (h : s.Agrees t) (key : FetchKey) (hkey : key ≠ .relations) {a b c : α}
    (hab : s.fetch.SameAt key t.fetch → a = b) : (if s.uses key then a else c) = if t.uses key then b else c := by
  rw [← h.uses key hkey]
  by_cases huses : s.uses key
  · rw [if_pos huses, if_pos huses, hab (h.part key hkey huses)]
  · rw [if_neg huses, if_neg huses]

theorem headText (h : s.Agrees t) : s.headText = t.headText := by
  have hcols := h.ite .cols (by decide) (c := s.table ++ ".*") (congrArg (", ".intercalate))
  rw [Select.headText, Select.headText, hcols, h.table, h.joins, h.uses .distinct (by decide)]

theorem groupText (h : s.Agrees t) : s.groupText = t.groupText :=
  h.ite .group (by decide) fun hgroup => congrArg (fun items => " GROUP BY " ++ ", ".intercalate items) hgroup

theorem endText (h : s.Agrees t) (d : Dialect) : s.endText d = t.endText d := by
  rw [Select.endText, Select.endText,
    h.ite .order (by decide) (congrArg fun items => " ORDER BY " ++ ", ".intercalate items),
    h.ite .limit (by decide) id, h.ite .offset (by decide) id]

theorem conditions (h : s.Agrees t) (key : FetchKey) (hkey : key ≠ .relations) (keyword : String) {f g : Filter}
    (hfg : s.fetch.SameAt key t.fetch → f = g) (bound : Nat) :
    s.conditions q key keyword f bound = t.conditions q key keyword g bound :=
  h.ite key hkey fun hsame => by rw [hfg hsame]

/-- Queries that use the same parts are written alike, or fail alike. -/
theorem sql (h : s.Agrees t) : s.sql q = t.sql q := by
  have hfilter := h.conditions (q := q) .filter (by decide) " WHERE " id 0
  have hhaving := fun bound => h.conditions (q := q) .having (by decide) " HAVING " id bound
  simp only [Select.sql, hfilter, hhaving, h.headText, h.groupText, h.endText]

end Agrees

/-- To ignore keys is to reset them, also in a fetch that differs in ignored parts or in its relations. -/
theorem agrees_without {g : Fetch} {keys : List FetchKey}
    (hg : ∀ key, key ∉ keys → key ≠ .relations → g.SameAt key s.fetch) :
    Agrees { s with fetch := g, ignored := s.ignored ++ keys } { s with fetch := s.fetch.without keys } := by
  refine ⟨rfl, rfl, fun key hkey => ?_, fun key hkey huses => ?_⟩
  · simp only [uses, Fetch.isSet_without, List.contains_eq_mem, List.mem_append, Bool.decide_or, Bool.not_or]
    by_cases hmem : key ∈ keys
    · simp [hmem]
    · rw [(hg key hmem hkey).isSet]
      simp [hmem]
  · have hmem : key ∉ keys := fun hmem => by simp [uses, hmem] at huses
    exact (hg key hmem hkey).trans (Fetch.sameAt_without hmem).symm

/-- A query that ignores keys is the query of the fetch in which they are reset: the same text, the same parameters, or
the same error.  What stands under an ignored key does not matter, be it malformed, and the relations of the fetch never
do. -/
theorem ignored_eq_without (s : Select) (keys : List FetchKey) (q : Quoter) :
    { s with ignored := s.ignored ++ keys }.sql q = { s with fetch := s.fetch.without keys }.sql q ∧
      (∀ g : Fetch, (∀ key, key ∉ keys → key ≠ .relations → g.SameAt key s.fetch) →
        { s with fetch := g, ignored := s.ignored ++ keys }.sql q = { s with ignored := s.ignored ++ keys }.sql q ∧
          { s with fetch := g.without keys }.sql q = { s with fetch := s.fetch.without keys }.sql q) ∧
      ∀ relations, { s with fetch := { s.fetch with relations } }.sql q = s.sql q := by
  have hself : Agrees { s with ignored := s.ignored ++ keys } { s with fetch := s.fetch.without keys } :=
    agrees_without fun key _ _ => .refl key s.fetch
  refine ⟨hself.sql, fun g hg => ?_, fun relations => ?_⟩
  · have hother : Agrees { s with fetch := g, ignored := s.ignored ++ keys } { s with fetch := g.without keys } :=
      agrees_without (s := { s with fetch := g }) fun key _ _ => .refl key g
    have hignored := (agrees_without hg).sql (q := q)
    exact ⟨hignored.trans hself.sql.symm, hother.sql.symm.trans hignored⟩
  · have hrelations : Agrees { s with fetch := { s.fetch with relations } } s :=
      ⟨rfl, rfl, fun key hkey => by cases key <;> first | rfl | exact absurd rfl hkey,
        fun key hkey _ => by cases key <;> first | rfl | exact absurd rfl hkey⟩
    exact hrelations.sql

/-- A filter that starts with `OR` is refused, and does no harm where it is ignored. -/
theorem ignored_eq_without_badFilter :
    let fetch : Fetch := { order := ["id"], offset := some 4 }
    let bad : Fetch :=
      { fetch with
        filter := [(.or, .test { col := "a", op := .isNull })], limit := some 1, relations := ["author"] }
    (∀ key, key ∉ [FetchKey.filter, .limit] → key ≠ .relations → bad.SameAt key fetch) ∧
      (∃ fault, { table := "t", fetch := bad : Select }.sql Dialect.sqlite.quoter = .error fault) ∧
      { table := "t", fetch := bad, ignored := [.filter, .limit] : Select }.sql Dialect.sqlite.quoter =
        .ok ⟨"SELECT t.* FROM t ORDER BY id LIMIT -1 OFFSET 4", []⟩ := by
  intro fetch bad
  have hsame : ∀ key, key ∉ [FetchKey.filter, .limit] → key ≠ .relations → bad.SameAt key fetch := by
    intro key hkey hrelations
    cases key <;> first | rfl | exact absurd rfl hrelations | exact absurd (by decide) hkey
  obtain ⟨-, hsql, -⟩ := ignored_eq_without { table := "t", fetch } [.filter, .limit] Dialect.sqlite.quoter
  exact ⟨hsame, ⟨_, rfl⟩, (hsql bad hsame).1.trans rfl⟩

end Select

end RecordMapper
