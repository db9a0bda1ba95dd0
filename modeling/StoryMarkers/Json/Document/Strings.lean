import StoryMarkers.Json.Document

set_option autoImplicit false

namespace StoryMarkers.Json

def hexValue? (c : Char) : Option Nat :=
  if '0' ≤ c ∧ c ≤ '9' then some (c.toNat - 48)
  else if 'a' ≤ c ∧ c ≤ 'f' then some (c.toNat - 87)
  else if 'A' ≤ c ∧ c ≤ 'F' then some (c.toNat - 55)
  else none

/-- The character that a backslash and a letter stand for. -/
def unescape? : Char → Option Char
  | '"' => some '"'
  | '\\' => some '\\'
  | '/' => some '/'
  | 'b' => some '\x08'
  | 'f' => some '\x0c'
  | 'n' => some '\n'
  | 'r' => some '\r'
  | 't' => some '\t'
  | _ => none

/-- The UTF-16 unit that four digits spell. Fewer than four bytes are an unfinished string. -/
def readUnit (text : List Char) : Except Malformed Nat :=
  match text with
  | a :: b :: c :: d :: _ =>
    match hexValue? a, hexValue? b, hexValue? c, hexValue? d with
    | some a, some b, some c, some d => .ok (((a * 16 + b) * 16 + c) * 16 + d)
    | _, _, _, _ => .error .invalidEscape
  | few =>
    let bytes := (few.map Char.utf8Size).foldr (· + ·) 0
    if bytes < 4 then .error .stringUnfinished else .error .invalidEscape

def isHigh (u : Nat) : Bool := 0xd800 ≤ u && u < 0xdc00

def isLow (u : Nat) : Bool := 0xdc00 ≤ u && u < 0xe000

/-- The character of a high and a low surrogate. -/
def joinPair (high low : Nat) : Char :=
  Char.ofNat (0x10000 + (high - 0xd800) * 0x400 + (low - 0xdc00))

abbrev Rest (text : List Char) := { rest : List Char // rest.length ≤ text.length }

/-- The low surrogate that must follow a high one, spelled as an escape of its own. -/
def readLow (text : List Char) : Except Malformed Nat :=
  match text with
  | [] => .error .stringUnfinished
  | '\\' :: [] => .error .stringUnfinished
  | '\\' :: 'u' :: rest => do
    let low ← readUnit rest
    if isLow low then .ok low else .error .loneSurrogate
  | _ => .error .pairUnfinished

/-- The characters up to the closing quote. -/
def readString (text : List Char) : Except Malformed (List Char) :=
  match text with
  | [] => .error .stringUnfinished
  | '"' :: _ => .ok []
  | '\\' :: [] => .error .stringUnfinished
  | '\\' :: 'u' :: rest => do
    let unit ← readUnit rest
    if isLow unit then .error .loneSurrogate
    else if isHigh unit then do
      let low ← readLow (rest.drop 4)
      (joinPair unit low :: ·) <$> readString (rest.drop 10)
    else
      (Char.ofNat unit :: ·) <$> readString (rest.drop 4)
  | '\\' :: c :: rest =>
    match unescape? c with
    | some c => (c :: ·) <$> readString rest
    | none => .error .invalidEscape
  | c :: rest =>
    if c.toNat < 32 then .error .controlCharacter else (c :: ·) <$> readString rest
termination_by text.length

/-- The text after the closing quote; escapes need to be spelled out, not to mean a character. -/
def skipString (text : List Char) : Except Malformed (Rest text) :=
  match text with
  | [] => .error .stringUnfinished
  | '"' :: rest => .ok ⟨rest, by simp⟩
  | '\\' :: [] => .error .stringUnfinished
  | '\\' :: 'u' :: rest => do
    let _ ← readUnit rest
    let ⟨after, h⟩ ← skipString (rest.drop 4)
    .ok ⟨after, by simp only [List.length_drop, List.length_cons] at *; omega⟩
  | '\\' :: c :: rest =>
    match unescape? c with
    | some _ => do
      let ⟨after, h⟩ ← skipString rest
      .ok ⟨after, by simp only [List.length_cons] at *; omega⟩
    | none => .error .invalidEscape
  | c :: rest =>
    if c.toNat < 32 then .error .controlCharacter
    else do
      let ⟨after, h⟩ ← skipString rest
      .ok ⟨after, by simp only [List.length_cons] at *; omega⟩
termination_by text.length

end StoryMarkers.Json
