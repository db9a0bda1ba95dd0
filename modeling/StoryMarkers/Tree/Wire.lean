import StoryMarkers.Property.Wire
import StoryMarkers.Tree.Basic

set_option autoImplicit false

namespace StoryMarkers

open Json

/-- An owner; the owners inside it are read by `nested`. -/
def Owner.record (nested : Decoder Owner) : Record Owner where
  name := "PropertyOwner"
  start := { identifier := "" }
  fields := [
    { name := "identifier"
      required := true
      read := fun depth doc x => do .ok { x with identifier := ← decodeText depth doc } },
    { name := "tag"
      alias? := some "tags"
      read := fun depth doc x => do .ok { x with tags := ← decodeList decodeText depth doc } },
    { name := "subowners"
      read := fun depth doc x => do .ok { x with subowners := ← decodeList nested depth doc } },
    { name := "properties"
      read := fun depth doc x => do
        .ok { x with properties := ← decodeList Property.decode depth doc } }]

/-- Owners inside an owner lie two levels deeper, inside it and inside their list. -/
def Owner.decode : Decoder Owner
  | 0 => (Owner.record fun _ _ => .error .tooDeep).decode 0
  | 1 => (Owner.record fun _ _ => .error .tooDeep).decode 1
  | depth + 2 => (Owner.record fun _ => Owner.decode depth).decode (depth + 2)

mutual

def Owner.toJson : Owner → Value
  | ⟨identifier, tags, subowners, properties⟩ =>
    .object [
      ("identifier", .string identifier),
      ("tag", .array (tags.map .string)),
      ("subowners", .array (Owner.listToJson subowners)),
      ("properties", .array (properties.map Property.toJson))]

def Owner.listToJson : List Owner → List Value
  | [] => []
  | owner :: rest => owner.toJson :: Owner.listToJson rest

end

namespace Tree

def record : Record Tree where
  name := "PropertyTree"
  start := {}
  fields := [
    { name := "subowners"
      read := fun depth doc x => do
        .ok { x with subowners := ← decodeList Owner.decode depth doc } },
    { name := "properties"
      read := fun depth doc x => do
        .ok { x with properties := ← decodeList Property.decode depth doc } }]

def decode : Decoder Tree := record.decode

def toJson (tree : Tree) : Value :=
  .object [
    ("subowners", .array (Owner.listToJson tree.subowners)),
    ("properties", .array (tree.properties.map Property.toJson))]

end Tree

end StoryMarkers
