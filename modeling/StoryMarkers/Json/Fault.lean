import StoryMarkers.Decimal.Layout
import StoryMarkers.Text.Quoted

set_option autoImplicit false

namespace StoryMarkers.Json

/-- A fault in the text itself, whatever it is read as. -/
inductive Malformed where
  | valueUnfinished
  | objectUnfinished
  | listUnfinished
  | stringUnfinished
  | valueExpected
  | wordExpected
  | colonExpected
  | objectCommaExpected
  | listCommaExpected
  | keyNotString
  | trailingComma
  | trailingCharacters
  | invalidNumber
  | numberOutOfRange
  | invalidEscape
  | pairUnfinished
  | loneSurrogate
  | controlCharacter
deriving DecidableEq, Repr

/-- What was found where something else was expected. -/
inductive Found where
  | null
  | bool (b : Bool)
  | int (n : Int)
  | float (x : Float)
  | string (s : String)
  | sequence
  | map

inductive Expected where
  | text
  | boolean
  | real
  | word
  | sequence
  | record (name : String)
deriving DecidableEq, Repr

inductive Fault where
  | malformed (fault : Malformed)
  | tooDeep
  | missingField (name : String)
  | duplicateField (name : String)
  | invalidType (found : Found) (expected : Expected)
  | invalidValue (found : Found) (expected : Expected)
  | invalidLength (length : Nat) (record : String) (fields : Nat)

def Malformed.message : Malformed → String
  | .valueUnfinished => "EOF while parsing a value"
  | .objectUnfinished => "EOF while parsing an object"
  | .listUnfinished => "EOF while parsing a list"
  | .stringUnfinished => "EOF while parsing a string"
  | .valueExpected => "expected value"
  | .wordExpected => "expected ident"
  | .colonExpected => "expected \x60:\x60"
  | .objectCommaExpected => "expected \x60,\x60 or \x60\x7d\x60"
  | .listCommaExpected => "expected \x60,\x60 or \x60]\x60"
  | .keyNotString => "key must be a string"
  | .trailingComma => "trailing comma"
  | .trailingCharacters => "trailing characters"
  | .invalidNumber => "invalid number"
  | .numberOutOfRange => "number out of range"
  | .invalidEscape => "invalid escape"
  | .pairUnfinished => "unexpected end of hex escape"
  | .loneSurrogate => "lone leading surrogate in hex escape"
  | .controlCharacter =>
    "control character (\\u0000-\\u001F) found while parsing a string"

/-- A text between grave accents. -/
def accented (text : String) : String := "\x60" ++ text ++ "\x60"

def Found.message : Found → String
  | .null => "null"
  | .bool b => "boolean " ++ accented (if b then "true" else "false")
  | .int n => "integer " ++ accented (toString n)
  | .float x => "floating point " ++ accented (String.ofList (Decimal.dataText x))
  | .string s => "string " ++ Text.quoted s
  | .sequence => "sequence"
  | .map => "map"

def Expected.message : Expected → String
  | .text => "a string"
  | .boolean => "a boolean"
  | .real => "f64"
  | .word => "u32"
  | .sequence => "a sequence"
  | .record name => "struct " ++ name

def Fault.message : Fault → String
  | .malformed fault => fault.message
  | .tooDeep => "recursion limit exceeded"
  | .missingField name => "missing field " ++ accented name
  | .duplicateField name => "duplicate field " ++ accented name
  | .invalidType found expected =>
    "invalid type: " ++ found.message ++ ", expected " ++ expected.message
  | .invalidValue found expected =>
    "invalid value: " ++ found.message ++ ", expected " ++ expected.message
  | .invalidLength length record fields =>
    "invalid length " ++ toString length ++ ", expected struct " ++ record ++ " with " ++
      toString fields ++ " elements"

end StoryMarkers.Json
