set_option autoImplicit false

namespace StoryMarkers.Toml

abbrev Scan (α : Type) := StateT (List Char) Option α

namespace Scan

/-- The next character, which stays where it is. -/
def peek : Scan (Option Char) := fun text => some (text.head?, text)

/-- All that is left, which stays where it is. -/
def ahead : Scan (List Char) := fun text => some (text, text)

def next : Scan Char
  | [] => none
  | c :: rest => some (c, rest)

def char (c : Char) : Scan Unit
  | [] => none
  | d :: rest => if d = c then some ((), rest) else none

/-- Takes a character if it comes next, and tells whether it did. -/
def charIf (c : Char) : Scan Bool
  | [] => some (false, [])
  | d :: rest => if d = c then some (true, rest) else some (false, d :: rest)

/-- Takes a word if it comes next, and tells whether it did. -/
def wordIf (word : String) : Scan Bool := fun text =>
  match word.toList.isPrefixOf? text with
  | some rest => some (true, rest)
  | none => some (false, text)

def takeWhile (p : Char → Bool) : Scan (List Char) := fun text =>
  some (text.takeWhile p, text.dropWhile p)

/-- What a scanner finds, or nothing, and then it leaves the text as it was. -/
def attempt {α : Type} (scan : Scan α) : Scan (Option α) := fun text =>
  match scan text with
  | some (x, rest) => some (some x, rest)
  | none => some (none, text)

/-- Repeats a scanner while it finds something, at most `count` times. -/
def repeated {α : Type} (scan : Scan (Option α)) : Nat → Scan (List α)
  | 0 => pure []
  | count + 1 => do
    match ← scan with
    | none => pure []
    | some x => do
      let rest ← repeated scan count
      pure (x :: rest)

/-- Repeats a scanner that takes a character at least, while it finds something. -/
def many {α : Type} (scan : Scan (Option α)) : Scan (List α) := do
  let text ← ahead
  repeated scan (text.length + 1)

def blanks : Scan Unit := fun text =>
  some ((), text.dropWhile fun c => c = ' ' || c = '\t')

/-- A line feed, or a carriage return and a line feed. -/
def newline : Scan Unit
  | '\n' :: rest => some ((), rest)
  | '\r' :: '\n' :: rest => some ((), rest)
  | _ => none

/-- Characters of comments: tabs, and all others but controls. -/
def isCommentChar (c : Char) : Bool :=
  c = '\t' || (0x20 ≤ c.toNat && c.toNat ≠ 0x7f)

def comment : Scan Unit := do
  char '#'
  let _ ← takeWhile isCommentChar

/-- The rest of a line: blanks, a comment if any, and the end of the line or of the text. -/
def lineEnd : Scan Unit := do
  blanks
  if (← peek) = some '#' then comment
  if (← peek).isSome then newline

/-- Blanks, line ends and comments, each comment with the end of its line. -/
def gap : Scan Unit := do
  let _ ← many do
    blanks
    match ← peek with
    | some '#' => do
      comment
      newline
      pure (some ())
    | some '\n' | some '\r' => do
      newline
      pure (some ())
    | _ => pure none

end Scan

end StoryMarkers.Toml
