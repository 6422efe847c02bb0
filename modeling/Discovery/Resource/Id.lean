import Discovery.Text.Hex

namespace Discovery

/-!
# Resource identifiers

A resource keeps one identifier of sixteen bytes for its whole life.  The same
identifier names the stream on which the resource is announced.  The all-zero
identifier belongs to no resource: it names the stream without an order, on
which queries travel.
-/

/-- Sixteen bytes that name a resource, or the stream on which it is announced. -/
structure ResourceId where
  bytes : Bytes
  size : bytes.length = 16
  deriving DecidableEq, Repr

namespace ResourceId

/-- Identifiers with the same bytes are the same. -/
@[ext]
theorem ext
    {first second : ResourceId}
    (same : first.bytes = second.bytes) :
    first = second := by
  cases first
  cases second
  simp_all

/-- Identifiers are ordered by their bytes, the first difference deciding. -/
instance : Ord ResourceId :=
  ⟨fun first second => compare first.bytes second.bytes⟩

instance : Std.TransOrd ResourceId where
  eq_swap := Std.OrientedCmp.eq_swap (α := Bytes)
  isLE_trans := Std.TransCmp.isLE_trans (α := Bytes)

instance : Std.LawfulEqOrd ResourceId where
  compare_self := Std.ReflCmp.compare_self (α := Bytes)
  eq_of_compare same :=
    ResourceId.ext (Std.LawfulEqCmp.eq_of_compare (α := Bytes) same)

/-- The identifier that names no resource. -/
def nil : ResourceId :=
  ⟨List.replicate 16 0, List.length_replicate⟩

instance : Inhabited ResourceId :=
  ⟨nil⟩

/-- Whether an identifier names no resource. -/
def isNil (id : ResourceId) : Bool :=
  id == nil

/-- The identifier with the given bytes, if they are sixteen. -/
def ofBytes? (bytes : Bytes) : Option ResourceId :=
  if size : bytes.length = 16 then some ⟨bytes, size⟩ else none

/-- An identifier is read back from its bytes. -/
@[simp]
theorem ofBytes?_bytes (id : ResourceId) : ofBytes? id.bytes = some id := by
  rw [ofBytes?, dif_pos id.size]

/-- The identifier as thirty-two digits. -/
def text (id : ResourceId) : String :=
  Text.Hex.encode id.bytes

/-- The first eight digits of an identifier. -/
def short (id : ResourceId) : String :=
  Text.Hex.encode (id.bytes.take 4)

/-- The identifier as it appears inside the description of a value. -/
def description (id : ResourceId) : String :=
  "ResourceId(" ++ id.text ++ ")"

/-- Why a text names no resource. -/
inductive ParseError where
  | notHex (cause : Text.Hex.Error)
  | wrongLength (length : Nat)
  deriving Repr, DecidableEq

/-- What is said about a text that names no resource. -/
def ParseError.message : ParseError → String
  | .notHex cause => "invalid hex in resource id: " ++ cause.message
  | .wrongLength length => "resource id must be 16 bytes, got " ++ toString length

/-- Read an identifier from its digits. -/
def parse (digits : String) : Except ParseError ResourceId :=
  match Text.Hex.decode digits with
  | .error cause => .error (.notHex cause)
  | .ok bytes =>
      match ofBytes? bytes with
      | some id => .ok id
      | none => .error (.wrongLength bytes.length)

end ResourceId

/-- The key by which a transport keeps messages in order. -/
abbrev StreamId := ResourceId

end Discovery
