import RecordMapper.Error
import RecordMapper.OrderedMap
import RecordMapper.Text.Quoted

/-!
# Registries of databases

A registry knows databases by name. A name has a factory, which opens its database when it is first asked for, or a
handle that is already open; the open handle is shared from then on, until the name is registered anew or removed.
-/

namespace RecordMapper

/-- Opens a handle; it acts on a world of its own. -/
abbrev Factory (ω : Type) (η : Type) := StateM ω (Except Error η)

/-- Factories in the order of their registration, and open handles. -/
structure Registry (ω : Type) (η : Type) where
  factories : OrderedMap String (Factory ω η) := {}
  handles : OrderedMap String η := {}

namespace Registry

variable {ω η : Type}

/-- The name of the database that is meant when none is named. -/
def defaultName : String := "default"

/-- Registers a factory; an open handle of that name is dropped. -/
def register (r : Registry ω η) (name : String) (factory : Factory ω η) : Registry ω η :=
  { factories := r.factories.insert name factory, handles := r.handles.erase name }

/-- Registers an open handle. -/
def registerHandle (r : Registry ω η) (name : String) (handle : η) : Registry ω η :=
  { r with handles := r.handles.insert name handle }

/-- The error of a name that is not registered. -/
def unknownName (name : String) : Error :=
  .connection .unknownName ("no connection registered under '" ++ name ++ "'") none

/-- The handle of a name, opened on first use; a factory that fails changes nothing in the registry. -/
def get (r : Registry ω η) (name : String) : StateM ω (Except Error η × Registry ω η) := fun w =>
  match r.handles.get? name with
  | some handle => ((.ok handle, r), w)
  | none =>
    match r.factories.get? name with
    | none => ((.error (unknownName name), r), w)
    | some factory =>
      match factory w with
      | (.error e, w) => ((.error e, r), w)
      | (.ok handle, w) => ((.ok handle, r.registerHandle name handle), w)

/-- The handle of the default name. -/
def getDefault (r : Registry ω η) : StateM ω (Except Error η × Registry ω η) :=
  r.get defaultName

/-- Whether a name is registered. -/
def isRegistered (r : Registry ω η) (name : String) : Bool :=
  r.factories.contains name || r.handles.contains name

/-- The registered names: those of factories in order, then those of mere handles in alphabetical order. -/
def names (r : Registry ω η) : List String :=
  r.factories.keys ++ (r.handles.keys.filter fun name => !r.factories.contains name).mergeSort (· ≤ ·)

/-- The registry without a name. -/
def remove (r : Registry ω η) (name : String) : Registry ω η :=
  { factories := r.factories.erase name, handles := r.handles.erase name }

/-- The registry in one line. -/
def describe (r : Registry ω η) : String :=
  "ConnectionRegistry \x7b names: " ++ Text.quotedList r.names ++ ", .. \x7d"

end Registry

end RecordMapper
