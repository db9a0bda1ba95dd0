import StoryMarkers.Toml.Scan

set_option autoImplicit false

namespace StoryMarkers.Toml

/-- Characters that stand for themselves in every string: tabs, and all others but controls. -/
def isTextChar (c : Char) : Bool := c = '\t' || (0x20 ≤ c.toNat && c.toNat ≠ 0x7f)

def hexDigit? (c : Char) : Option Nat :=
  if '0' ≤ c ∧ c ≤ '9' then some (c.toNat - 48)
  else if 'a' ≤ c ∧ c ≤ 'f' then some (c.toNat - 87)
  else if 'A' ≤ c ∧ c ≤ 'F' then some (c.toNat - 55)
  else none

/-- The character whose code point the digits spell; surrogates are none. -/
def codePoint? (run : List Char) : Option Char := do
  let digits ← run.mapM hexDigit?
  let n := digits.foldl (fun n d => 16 * n + d) 0
  if n.isValidChar then some (Char.ofNat n) else none

/-- An escape after its backslash. -/
def escaped : Scan Char := fun text =>
  match text with
  | 'b' :: rest => some ('\x08', rest)
  | 'f' :: rest => some ('\x0c', rest)
  | 'n' :: rest => some ('\n', rest)
  | 'r' :: rest => some ('\r', rest)
  | 't' :: rest => some ('\t', rest)
  | '"' :: rest => some ('"', rest)
  | '\\' :: rest => some ('\\', rest)
  | 'u' :: rest => codePoint rest 4
  | 'U' :: rest => codePoint rest 8
  | _ => none
where
  codePoint (rest : List Char) (count : Nat) : Option (Char × List Char) :=
    if rest.length < count then none
    else (codePoint? (rest.take count)).map fun c => (c, rest.drop count)

/-- A character of a string on one line, up to its closing quote. -/
def lineChar (quote : Char) (escapes : Bool) : Scan (Option Char) := fun text =>
  match text with
  | [] => none
  | c :: rest =>
    if c = quote then some (none, c :: rest)
    else if c = '\\' && escapes then (escaped rest).map fun (d, rest) => (some d, rest)
    else if isTextChar c then some (some c, rest)
    else none

/-- A string on one line after its opening quote. -/
def lineString (quote : Char) (escapes : Bool) : Scan String := do
  let text ← Scan.many (lineChar quote escapes)
  Scan.char quote
  pure (String.ofList text)

/-- A backslash at the end of a line takes all blanks and line ends after it along. -/
def foldedLine? (text : List Char) : Option (List Char) :=
  match Scan.newline (text.dropWhile fun c => c = ' ' || c = '\t') with
  | some (_, rest) => dropBlankLines rest.length rest
  | none => none
where
  dropBlankLines : Nat → List Char → List Char
    | 0, text => text
    | count + 1, text =>
      let rest := text.dropWhile fun c => c = ' ' || c = '\t'
      match Scan.newline rest with
      | some (_, after) => dropBlankLines count after
      | none => rest

/-- The next piece of a string on many lines; one or two quotes may stand inside it. -/
def blockPiece (quote : Char) (escapes : Bool) : Scan (Option (List Char)) := fun text =>
  match text with
  | [] => none
  | c :: rest =>
    if c = quote then
      let run := text.takeWhile (· = quote)
      if run.length < 3 then some (some run, text.drop run.length) else some (none, text)
    else if c = '\\' && escapes then
      match foldedLine? rest with
      | some after => some (some [], after)
      | none => (escaped rest).map fun (d, rest) => (some [d], rest)
    else if isTextChar c then some (some [c], rest)
    else (Scan.newline text).map fun (_, rest) => (some ['\n'], rest)

/-- A string on many lines after its opening quotes. Up to two quotes may precede the last three. -/
def blockString (quote : Char) (escapes : Bool) : Scan String := do
  let _ ← Scan.attempt Scan.newline
  let pieces ← Scan.many (blockPiece quote escapes)
  let run ← Scan.takeWhile (· = quote)
  if run.length < 3 || 5 < run.length then failure
  pure (String.ofList (pieces.flatten ++ run.drop 3))

/-- A string of any kind; the next character is its quote. -/
def anyString (quote : Char) : Scan String := do
  let escapes := quote = '"'
  if ← Scan.wordIf (String.ofList [quote, quote, quote]) then blockString quote escapes
  else do
    Scan.char quote
    lineString quote escapes

end StoryMarkers.Toml
