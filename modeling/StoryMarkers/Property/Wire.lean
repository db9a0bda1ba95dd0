import StoryMarkers.Json.Decode
import StoryMarkers.Json.Printer
import StoryMarkers.Property.Basic

set_option autoImplicit false

namespace StoryMarkers.Property

open Json

/-- A string is kept as it is, null and a missing value as the raw empty text, and any other value
as its compact text. -/
def ofContent : Value → String × Bool
  | .string s => (s, true)
  | .null => ("", false)
  | value => (value.compact, false)

/-- A raw text is read again for the value that it stands for; one that is not JSON is written as a
string. -/
def content (p : Property) : Value :=
  if p.quoted then .string p.value
  else if p.value = "" then .null
  else
    match Json.decode decodeValue p.value with
    | .ok value => value
    | .error _ => .string p.value

def description (p : Property) : Record Property where
  name := "PropertyDescription"
  start := p
  fields := [
    { name := "Identifier"
      required := true
      read := fun depth doc p => do .ok { p with uri := ← decodeText depth doc } },
    { name := "Name"
      read := fun depth doc p => do .ok { p with name := ← decodeOption decodeText depth doc } }]

def record : Record Property where
  name := "WireProperty"
  start := { uri := "", value := "", quoted := false }
  fields := [
    { name := "Description"
      required := true
      read := fun depth doc p => (description p).decode depth doc },
    { name := "Value"
      read := fun depth doc p => do
        let (value, quoted) := ofContent (← decodeValue depth doc)
        .ok { p with value, quoted } },
    { name := "listeners"
      read := fun depth doc p => do .ok { p with listeners := ← decodeWord depth doc } }]

def decode : Decoder Property := record.decode

def toJson (p : Property) : Value :=
  let name := match p.name with
    | some name => [("Name", .string name)]
    | none => []
  .object [
    ("Description", .object (("Identifier", .string p.uri) :: name)),
    ("Value", p.content),
    ("listeners", .number (.int p.listeners.toNat))]

end StoryMarkers.Property
