import StoryMarkers.Json.Value
import StoryMarkers.Decimal.Layout

set_option autoImplicit false

namespace StoryMarkers.Json

/-- A digit of base sixteen, lower case. -/
def hexDigit (n : Nat) : Char := Char.ofNat (if n < 10 then 48 + n else 87 + n)

def escape (c : Char) : List Char :=
  if c = '"' then ['\\', '"']
  else if c = '\\' then ['\\', '\\']
  else if c = '\x08' then ['\\', 'b']
  else if c = '\x0c' then ['\\', 'f']
  else if c = '\n' then ['\\', 'n']
  else if c = '\r' then ['\\', 'r']
  else if c = '\t' then ['\\', 't']
  else if c.toNat < 32 then ['\\', 'u', '0', '0', hexDigit (c.toNat / 16), hexDigit (c.toNat % 16)]
  else [c]

def stringText (s : String) : List Char := '"' :: s.toList.flatMap escape ++ ['"']

def Number.text : Number → List Char
  | .int n => (toString n).toList
  | .float x => Decimal.dataText x

mutual

/-- Compact text, without blanks, and in strings only with the escapes that JSON asks for. -/
def Value.text : Value → List Char
  | .null => "null".toList
  | .bool b => if b then "true".toList else "false".toList
  | .number n => n.text
  | .string s => stringText s
  | .array items => '[' :: Value.itemsText items
  | .object entries => '{' :: Value.entriesText entries

/-- The items and the closing bracket. -/
def Value.itemsText : List Value → List Char
  | [] => [']']
  | [item] => item.text ++ [']']
  | item :: rest => item.text ++ ',' :: Value.itemsText rest

/-- The entries and the closing brace. -/
def Value.entriesText : List (String × Value) → List Char
  | [] => ['}']
  | [(key, value)] => stringText key ++ ':' :: value.text ++ ['}']
  | (key, value) :: rest => stringText key ++ ':' :: value.text ++ ',' :: Value.entriesText rest

end

def Value.compact (v : Value) : String := String.ofList v.text

end StoryMarkers.Json
