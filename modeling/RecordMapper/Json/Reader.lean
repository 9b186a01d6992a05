import RecordMapper.Json.Token

/-!
# Reading JSON

The tokens of a text are read by a machine with a stack of unfinished containers, so every token moves it by one
step. A repeated member keeps the place of its first occurrence and the document of the last, and containers nest at
most `maxDepth` deep.
-/

namespace RecordMapper.Json

/-- An unfinished container: its parts so far, and for an object the name whose document comes next. -/
inductive Frame where
  | array (items : List Json)
  | object (members : List (String × Json)) (name : String)
  deriving Repr

/-- What the machine waits for. -/
inductive Expecting where
  /-- A document; right after `[` the array may end instead. -/
  | document (mayEnd : Bool)
  /-- A member's name; right after an opening brace the object may end instead. -/
  | name (members : List (String × Json)) (mayEnd : Bool)
  /-- The colon after a name. -/
  | colon (members : List (String × Json)) (name : String)
  /-- A comma or the end of the innermost container, given the document just read. -/
  | separator (doc : Json)
  deriving Repr

/-- The machine: what it waits for, inside which containers. -/
structure Machine where
  expecting : Expecting
  frames : List Frame
  deriving Repr

/-- The container that a frame becomes with its last document. -/
def Frame.close (doc : Json) : Frame → Json
  | .array items => .arr (items ++ [doc])
  | .object members name => .obj (putMember name doc members)

/-- Moves by one token with at most `depth` containers open; `none` where no document goes on with it. -/
def Machine.step? (depth : Nat) (m : Machine) (t : Token) : Option Machine :=
  match m.expecting, t with
  | .document _, .leaf doc => some ⟨.separator doc, m.frames⟩
  | .document _, .mark .beginArray =>
    if m.frames.length < depth then some ⟨.document true, .array [] :: m.frames⟩ else none
  | .document _, .mark .beginObject =>
    if m.frames.length < depth then some ⟨.name [] true, m.frames⟩ else none
  | .document true, .mark .endArray =>
    match m.frames with
    | .array items :: frames => some ⟨.separator (.arr items), frames⟩
    | _ => none
  | .name members _, .leaf (.str name) => some ⟨.colon members name, m.frames⟩
  | .name members true, .mark .endObject => some ⟨.separator (.obj members), m.frames⟩
  | .colon members name, .mark .colon => some ⟨.document false, .object members name :: m.frames⟩
  | .separator doc, .mark .comma =>
    match m.frames with
    | .array items :: frames => some ⟨.document false, .array (items ++ [doc]) :: frames⟩
    | .object members name :: frames => some ⟨.name (putMember name doc members) false, frames⟩
    | [] => none
  | .separator doc, .mark .endArray =>
    match m.frames with
    | .array items :: frames => some ⟨.separator ((Frame.array items).close doc), frames⟩
    | _ => none
  | .separator doc, .mark .endObject =>
    match m.frames with
    | .object members name :: frames => some ⟨.separator ((Frame.object members name).close doc), frames⟩
    | _ => none
  | _, _ => none

/-- The machine after a list of tokens. -/
def Machine.run? (depth : Nat) (m : Machine) (ts : List Token) : Option Machine :=
  ts.foldlM (Machine.step? depth) m

/-- The document of a text whose containers nest at most `depth` deep. -/
def readWithin? (depth : Nat) (s : String) : Option Json := do
  let ts ← tokens? s.toList
  match ← Machine.run? depth ⟨.document false, []⟩ ts with
  | ⟨.separator doc, []⟩ => some doc
  | _ => none

/-- The most containers inside one another. -/
def maxDepth : Nat := 127

/-- The document of a text. -/
def read? (s : String) : Option Json :=
  readWithin? maxDepth s

end RecordMapper.Json
