import StoryMarkers.Toml.Scalars
import StoryMarkers.Toml.Table

set_option autoImplicit false

namespace StoryMarkers.Toml

/-- How many arrays and inline tables may lie inside each other, and how long a key may be. -/
def maxLevels : Nat := 79

def isBareChar (c : Char) : Bool := c.isAlphanum || c = '_' || c = '-'

def simpleKey : Scan String := do
  match ← Scan.peek with
  | some '"' => do
    Scan.char '"'
    lineString '"' true
  | some '\'' => do
    Scan.char '\''
    lineString '\'' false
  | _ => do
    let run ← Scan.takeWhile isBareChar
    if run.isEmpty then failure
    pure (String.ofList run)

/-- A dotted key with blanks around its parts: the path, and the last part. -/
def dottedKey : Scan (List String × String) := do
  Scan.blanks
  let first ← simpleKey
  Scan.blanks
  let rest ← Scan.many do
    if ← Scan.charIf '.' then
      Scan.blanks
      let key ← simpleKey
      Scan.blanks
      pure (some key)
    else pure none
  let keys := first :: rest
  if maxLevels < keys.length then failure
  pure (keys.dropLast, keys.getLastD "")

/-- A key and its value, with the path that leads to the key. -/
structure Entry where
  path : List String
  key : String
  value : Value

/-- Items between an opening and a closing character, with commas between them. -/
def itemsUntil {α : Type} (close : Char) (item : Scan α) : Scan (List α) := do
  if ← Scan.charIf close then pure []
  else do
    let first ← item
    let rest ← Scan.many do
      if ← Scan.charIf ',' then some <$> item else pure none
    Scan.char close
    pure (first :: rest)

/-- Items of an array; a comma may follow the last one. -/
def arrayItems (item : Scan Value) : Scan (List Value) := do
  Scan.gap
  if ← Scan.charIf ']' then pure []
  else do
    let first ← item
    Scan.gap
    let rest ← Scan.many do
      if ← Scan.charIf ',' then
        Scan.gap
        if (← Scan.peek) = some ']' then pure none
        else do
          let next ← item
          Scan.gap
          pure (some next)
      else pure none
    Scan.char ']'
    pure (first :: rest)

/-- A key, an equals sign and a value. -/
def entry (value : Scan Value) : Scan Entry := do
  let (path, key) ← dottedKey
  Scan.char '='
  Scan.blanks
  pure ⟨path, key, ← value⟩

def tableOf (entries : List Entry) (start : Table) : Option Table :=
  entries.foldlM (fun table (e : Entry) => table.put e.path e.key e.value) start

/-- A value, in which arrays and inline tables may lie inside each other to the given depth. -/
def value : Nat → Scan Value
  | 0 => scalar
  | levels + 1 => do
    match ← Scan.peek with
    | some '[' => do
      Scan.char '['
      .array <$> arrayItems (value levels)
    | some '\x7b' => do
      Scan.char '\x7b'
      Scan.blanks
      let entries ← itemsUntil '\x7d' do
        let e ← entry (value levels)
        Scan.blanks
        pure e
      let table ← (tableOf entries (.empty .declared) : Option Table)
      pure table.toValue
    | _ => scalar

inductive Line where
  | entry (e : Entry)
  | table (path : List String) (key : String)
  | tables (path : List String) (key : String)

/-- A line that says something; blank lines and comments are none. -/
def line : Scan (Option Line) := do
  match ← Scan.peek with
  | some '[' => do
    Scan.char '['
    let double ← Scan.charIf '['
    let (path, key) ← dottedKey
    Scan.char ']'
    if double then Scan.char ']'
    pure (some (if double then .tables path key else .table path key))
  | some '#' | some '\n' | some '\r' | none => pure none
  | _ => some <$> (.entry <$> entry (value maxLevels))

def lines : Scan (List Line) := do
  let found ← Scan.many do
    Scan.blanks
    if (← Scan.peek).isNone then pure none
    else do
      let line ← line
      Scan.lineEnd
      pure (some line)
  pure (found.filterMap id)

/-- The root table as it grows, and the header that the next entries belong to. -/
structure Progress where
  root : Table
  header : List String

def Progress.add (p : Progress) : Line → Option Progress
  | .entry e =>
    (p.root.within false (Table.put e.path e.key e.value) p.header).map ({ p with root := · })
  | .table path key => (p.root.declare path key).map (Progress.mk · (path ++ [key]))
  | .tables path key => (p.root.append path key).map (Progress.mk · (path ++ [key]))

/-- The table of a document. A byte order mark at its start is skipped. -/
def read? (text : String) : Option Value := do
  let chars := match text.toList with
    | '\ufeff' :: rest => rest
    | chars => chars
  let (found, _) ← lines chars
  let progress ← found.foldlM Progress.add ⟨.empty .declared, []⟩
  some progress.root.toValue

end StoryMarkers.Toml
