import StoryMarkers.Json.Document.Reader

/-!
Decoders take a document apart into a value of the program's own types.

A decoder is told how many more levels of nesting it may enter. Opening an array or an object at
level zero is an error, so no document nests deeper than the limit wherever it is read; parts that
are skipped do not count.
-/

set_option autoImplicit false

namespace StoryMarkers.Json

abbrev Decoder (α : Type) := Nat → Document → Except Fault α

/-- The levels of nesting that a whole text may have. -/
def maxDepth : Nat := 127

def ofMalformed {α : Type} : Except Malformed α → Except Fault α
  | .ok x => .ok x
  | .error fault => .error (.malformed fault)

/-- What is wrong with a document that is not of the kind that was expected. -/
def Document.mismatch (expected : Expected) : Document → Fault
  | .null => .invalidType .null expected
  | .bool b => .invalidType (.bool b) expected
  | .number text =>
    match text.value with
    | .ok (.int n) => .invalidType (.int n) expected
    | .ok (.float x) => .invalidType (.float x) expected
    | .error fault => .malformed fault
  | .string (.ok s) => .invalidType (.string s) expected
  | .string (.error fault) => .malformed fault
  | .array _ => .invalidType .sequence expected
  | .object _ => .invalidType .map expected
  | .broken b => .malformed b.read

def decodeText : Decoder String
  | _, .string (.ok s) => .ok s
  | _, doc => .error (doc.mismatch .text)

def decodeBool : Decoder Bool
  | _, .bool b => .ok b
  | _, doc => .error (doc.mismatch .boolean)

/-- Whole numbers count as fractions too. -/
def decodeReal : Decoder Float
  | _, .number text => do
    match ← ofMalformed text.value with
    | .int n => .ok (Float.ofInt n)
    | .float x => .ok x
  | _, doc => .error (doc.mismatch .real)

/-- A whole number of 32 bits. -/
def decodeWord : Decoder UInt32
  | _, .number text => do
    match ← ofMalformed text.value with
    | .int n =>
      if 0 ≤ n ∧ n < UInt32.size then .ok (UInt32.ofNat n.toNat)
      else .error (.invalidValue (.int n) .word)
    | .float x => .error (.invalidType (.float x) .word)
  | _, doc => .error (doc.mismatch .word)

/-- Null is the absence of a value. -/
def decodeOption {α : Type} (item : Decoder α) : Decoder (Option α)
  | _, .null => .ok none
  | depth, doc => some <$> item depth doc

def Items.decode {α : Type} (item : Document → Except Fault α) : Items → Except Fault (List α)
  | .done => .ok []
  | .cut b => .error (.malformed b.read)
  | .more doc rest => do
    let x ← item doc
    let xs ← rest.decode item
    .ok (x :: xs)

def decodeList {α : Type} (item : Decoder α) : Decoder (List α)
  | 0, .array _ => .error .tooDeep
  | depth + 1, .array items => items.decode (item depth)
  | _, doc => .error (doc.mismatch .sequence)

def Entries.decode {α : Type} (item : Document → Except Fault α) :
    Entries → Except Fault (List (String × α))
  | .done => .ok []
  | .cut b => .error (.malformed b.read)
  | .more key doc rest => do
    let key ← ofMalformed key
    let x ← item doc
    let xs ← rest.decode item
    .ok ((key, x) :: xs)

/-- A free value; of entries with the same key the last one counts. -/
def decodeValue (depth : Nat) (doc : Document) : Except Fault Value :=
  match depth, doc with
  | _, .null => .ok .null
  | _, .bool b => .ok (.bool b)
  | _, .number text => .number <$> ofMalformed text.value
  | _, .string content => .string <$> ofMalformed content
  | 0, .array _ => .error .tooDeep
  | 0, .object _ => .error .tooDeep
  | depth + 1, .array items => .array <$> items.decode (decodeValue depth)
  | depth + 1, .object entries =>
    (.object ∘ sortEntries) <$> entries.decode (decodeValue depth)
  | _, .broken b => .error (.malformed b.read)

/-- A field of a record: the names it goes by, and how its value is put into the record. -/
structure Field (ρ : Type) where
  name : String
  /-- A second name that is accepted. -/
  alias? : Option String := none
  required : Bool := false
  read : Nat → Document → ρ → Except Fault ρ

/--
A record with named fields, built up from a start value that holds the defaults. Its text is an
object, or an array of the fields in this order.
-/
structure Record (ρ : Type) where
  name : String
  fields : List (Field ρ)
  start : ρ

namespace Record

variable {ρ : Type}

def field? (record : Record ρ) (key : String) : Option (Field ρ) :=
  record.fields.find? fun field => key = field.name || some key = field.alias?

/-- Reads the entries in order; `seen` holds the names of the fields read so far. -/
def readEntries (record : Record ρ) (depth : Nat) :
    Entries → ρ → List String → Except Fault (ρ × List String)
  | .done, x, seen => .ok (x, seen)
  | .cut b, _, _ => .error (.malformed b.read)
  | .more key doc rest, x, seen => do
    let key ← ofMalformed key
    match record.field? key with
    | none =>
      ofMalformed doc.skip
      record.readEntries depth rest x seen
    | some field =>
      if seen.contains field.name then .error (.duplicateField field.name)
      else
        let x ← field.read depth doc x
        record.readEntries depth rest x (field.name :: seen)

/-- Nothing may follow the last field. -/
def endOfItems : Items → Except Fault Unit
  | .done => .ok ()
  | .more _ _ => .error (.malformed .trailingCharacters)
  | .cut b =>
    match b.read with
    | .trailingComma | .listUnfinished => .error (.malformed b.read)
    | _ => .error (.malformed .trailingCharacters)

/-- Reads the fields in order; `index` counts the items read so far. -/
def readItems (record : Record ρ) (depth : Nat) :
    List (Field ρ) → Nat → Items → ρ → Except Fault ρ
  | [], _, items, x => do
    endOfItems items
    .ok x
  | field :: fields, index, items, x =>
    match items with
    | .cut b => .error (.malformed b.read)
    | .done =>
      if field.required then
        .error (.invalidLength index record.name record.fields.length)
      else record.readItems depth fields index .done x
    | .more doc rest => do
      let x ← field.read depth doc x
      record.readItems depth fields (index + 1) rest x

def decode (record : Record ρ) : Decoder ρ
  | 0, .object _ => .error .tooDeep
  | 0, .array _ => .error .tooDeep
  | depth + 1, .object entries => do
    let (x, seen) ← record.readEntries depth entries record.start []
    match record.fields.find? fun field => field.required && !seen.contains field.name with
    | some field => .error (.missingField field.name)
    | none => .ok x
  | depth + 1, .array items => record.readItems depth record.fields 0 items record.start
  | _, doc => .error (doc.mismatch (.record record.name))

end Record

/-- Reads a whole text: one value with nothing but blanks around it. -/
def decodeChars {α : Type} (decoder : Decoder α) (text : List Char) : Except Fault α :=
  match readValue text with
  | (doc, rest) => do
    let x ← decoder maxDepth doc
    if rest.val.all isBlank then .ok x else .error (.malformed .trailingCharacters)

def decode {α : Type} (decoder : Decoder α) (text : String) : Except Fault α :=
  decodeChars decoder text.toList

end StoryMarkers.Json
