import RecordMapper.Value.Basic

/-!
# Tagged documents

The form in which values are stored with their types: an object with the type's tag over the content, or the bare tag
where there is no content. Only doubles that JSON has no number for are lost by it.
-/

namespace RecordMapper.Value

mutual

/-- The tagged document of a value. -/
def toTagged : Value → Json
  | .null => .str "Null"
  | .default => .str "Default"
  | .bool b => .obj [("Bool", .bool b)]
  | .int n => .obj [("Int", .int n.toInt)]
  | .bigint n => .obj [("BigInt", .int n.toInt)]
  | .double x => .obj [("Double", if Decimal.isFinite x then .float x else .null)]
  | .decimal s => .obj [("Decimal", .str s)]
  | .text s => .obj [("Text", .str s)]
  | .bytes bs => .obj [("Bytes", .arr (bs.map fun b => .int b.toNat))]
  | .json doc => .obj [("Json", doc)]
  | .array items => .obj [("Array", .arr (toTaggedItems items))]

/-- The tagged documents of a list of values. -/
def toTaggedItems : List Value → List Json
  | [] => []
  | item :: items => toTagged item :: toTaggedItems items

end

/-- The byte of a document. -/
def byte? : Json → Option UInt8
  | .int i => if 0 ≤ i ∧ i < 256 then some (UInt8.ofNat i.toNat) else none
  | _ => none

/-- The double of a document; a number without a fraction is one as well. -/
def double? : Json → Option Float
  | .float x => some x
  | .int i => some (Decimal.ofInt i)
  | _ => none

mutual

/-- The value of a tagged document. -/
def ofTagged? : Json → Option Value
  | .str "Null" => some .null
  | .str "Default" => some .default
  | .obj [("Array", .arr items)] => (ofTaggedItems? items).map .array
  | .obj [("Bool", .bool b)] => some (.bool b)
  | .obj [("Int", .int i)] => if -0x80000000 ≤ i ∧ i < 0x80000000 then some (.int (Int32.ofInt i)) else none
  | .obj [("BigInt", .int i)] => if Json.fitsInt64 i then some (.bigint (Int64.ofInt i)) else none
  | .obj [("Double", doc)] => (double? doc).map .double
  | .obj [("Decimal", .str s)] => some (.decimal s)
  | .obj [("Text", .str s)] => some (.text s)
  | .obj [("Bytes", .arr items)] => (items.mapM byte?).map .bytes
  | .obj [("Json", doc)] => some (.json doc)
  | _ => none

/-- The values of a list of tagged documents. -/
def ofTaggedItems? : List Json → Option (List Value)
  | [] => some []
  | item :: items => do return (← ofTagged? item) :: (← ofTaggedItems? items)

end

end RecordMapper.Value
