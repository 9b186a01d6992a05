import RecordMapper.Sqlite.Reference

/-!
# What can stop a change

Whether a change of rows can stop at a broken constraint in such a way that the whole statement is undone. It is known
before the change is made, from what the tables declare: their own constraints, what they refer to, and what follows them.
A change that cannot stop so and fails for another reason inside a transaction keeps what it has done.
-/

namespace RecordMapper.Sqlite.Stored

/-- Whether the constraints of the table itself can stop a change; the changed columns are all columns if none are
named. -/
def constraintsAbort (t : Stored) (conflict : Option OnConflict) (changed : Option (List Nat)) (givesRowId : Bool) :
    Bool :=
  let aborts (declared : OnConflict) : Bool := conflict.getD declared == .abort
  let isChanged (i : Nat) : Bool := (changed.map fun cs => cs.contains i).getD true
  let refusesNull (f : Field) : Bool := match f.notNull with
    | some declared => aborts declared || (conflict.getD declared == .replace && f.default.isNone)
    | none => false
  (t.fields.zipIdx.any fun (f, i) => isChanged i && refusesNull f) ||
    (!t.checks.isEmpty && (aborts .abort || conflict == some .replace)) ||
    (givesRowId && !t.withoutRowId && aborts t.rowIdConflict) ||
    t.indexes.any fun i => (i.unique.map aborts).getD false

/-- The table with those of its indexes alone that a change of some columns touches. -/
def touched (t : Stored) (changed : List Nat) : Stored :=
  { t with
    indexes := t.indexes.filter fun i => i.filter.isSome || i.terms.any fun term => match term.1 with
      | .column place => changed.contains place
      | .expr _ => true }

/-- Whether what a table refers to can stop a change of some columns at once. -/
def referencesAbort (t : Stored) (changed : Option (List Nat)) : Bool :=
  t.foreignKeys.any fun key => !key.deferred && (t.changesChild key changed || sameName key.table.text t.name)

/-- Whether the tables that refer to a table can stop a change of some columns, or a deletion if none are named. Rows
follow to a depth that is bounded by the number of tables. -/
def followersAbort : Nat → Schema → Stored → Option (List Nat) → Bool
  | 0, _, _, _ => false
  | fuel + 1, contents, t, changed =>
    (contents.references t.name).any fun (child, key) =>
      let places := key.places child
      let given : Bool :=
        child.constraintsAbort none (some places) (places.any fun i => child.rowIdField = some i) ||
          followersAbort fuel contents child (some places)
      let others := child.foreignKeys.any fun k => !k.deferred && k.columns != key.columns &&
        child.changesChild k (some places)
      t.changesParent key changed &&
        match if changed.isSome then key.onUpdate else key.onDelete with
        | .noAction => !key.deferred
        | .restrict => true
        | .setDefault => !key.deferred || given || others
        | .setNull => given || others
        | .cascade =>
          if changed.isSome then given || child.referencesAbort (some places) else followersAbort fuel contents child none

end RecordMapper.Sqlite.Stored
