import StoryMarkers.Json.Document.Reader
import StoryMarkers.Json.Printer

set_option autoImplicit false

namespace StoryMarkers.Json

theorem hexValue?_hexDigit {n : Nat} (small : n < 16) : hexValue? (hexDigit n) = some n := by
  have all : ∀ n < 16, hexValue? (hexDigit n) = some n := by decide
  exact all n small

/-- A unit below 256 is spelled with two leading zeros. -/
theorem readUnit_hexDigits {n : Nat} (small : n < 256) (rest : List Char) :
    readUnit ('0' :: '0' :: hexDigit (n / 16) :: hexDigit (n % 16) :: rest) = .ok n := by
  have zero : hexValue? '0' = some 0 := by decide
  have high := hexValue?_hexDigit (show n / 16 < 16 by omega)
  have low := hexValue?_hexDigit (show n % 16 < 16 by omega)
  simp only [readUnit, zero, high, low]
  congr 1
  omega

/-- The three ways in which a character is written: as itself, after a backslash, or as its unit. -/
theorem escape_cases (c : Char) :
    (32 ≤ c.toNat ∧ c ≠ '"' ∧ c ≠ '\\' ∧ escape c = [c]) ∨
    (∃ letter, letter ≠ 'u' ∧ unescape? letter = some c ∧ escape c = ['\\', letter]) ∨
    (c.toNat < 32 ∧ escape c =
      ['\\', 'u', '0', '0', hexDigit (c.toNat / 16), hexDigit (c.toNat % 16)]) := by
  by_cases quote : c = '"'
  · subst quote
    exact Or.inr (Or.inl ⟨'"', by decide, rfl, rfl⟩)
  by_cases backslash : c = '\\'
  · subst backslash
    exact Or.inr (Or.inl ⟨'\\', by decide, rfl, rfl⟩)
  by_cases backspace : c = '\x08'
  · subst backspace
    exact Or.inr (Or.inl ⟨'b', by decide, rfl, rfl⟩)
  by_cases feed : c = '\x0c'
  · subst feed
    exact Or.inr (Or.inl ⟨'f', by decide, rfl, rfl⟩)
  by_cases line : c = '\n'
  · subst line
    exact Or.inr (Or.inl ⟨'n', by decide, rfl, rfl⟩)
  by_cases carriage : c = '\r'
  · subst carriage
    exact Or.inr (Or.inl ⟨'r', by decide, rfl, rfl⟩)
  by_cases tab : c = '\t'
  · subst tab
    exact Or.inr (Or.inl ⟨'t', by decide, rfl, rfl⟩)
  by_cases control : c.toNat < 32
  · simp [escape, quote, backslash, backspace, feed, line, carriage, tab, control]
  · left
    have shown : 32 ≤ c.toNat := by omega
    simp [escape, quote, backslash, backspace, feed, line, carriage, tab, control, shown]

theorem readString_plain {c : Char} (printable : 32 ≤ c.toNat) (quote : c ≠ '"')
    (backslash : c ≠ '\\') (rest : List Char) :
    readString (c :: rest) = (c :: ·) <$> readString rest := by
  rw [readString]
  · simp [show ¬ c.toNat < 32 by omega]
  · exact quote
  all_goals simp [backslash]

theorem readString_letter {c letter : Char} (other : letter ≠ 'u')
    (means : unescape? letter = some c) (rest : List Char) :
    readString ('\\' :: letter :: rest) = (c :: ·) <$> readString rest := by
  rw [readString]
  · simp [means]
  · exact other

theorem readString_unit {c : Char} (control : c.toNat < 32) (rest : List Char) :
    readString ('\\' :: 'u' :: '0' :: '0' :: hexDigit (c.toNat / 16) ::
      hexDigit (c.toNat % 16) :: rest) = (c :: ·) <$> readString rest := by
  have low : isLow c.toNat = false := by simp [isLow]; omega
  have high : isHigh c.toNat = false := by simp [isHigh]; omega
  rw [readString, readUnit_hexDigits (by omega)]
  simp [bind, Except.bind, low, high]

theorem readString_escape (c : Char) (rest : List Char) :
    readString (escape c ++ rest) = (c :: ·) <$> readString rest := by
  rcases escape_cases c with ⟨printable, quote, backslash, text⟩ | ⟨letter, other, means, text⟩ |
    ⟨control, text⟩
  · rw [text]
    exact readString_plain printable quote backslash rest
  · rw [text]
    exact readString_letter other means rest
  · rw [text]
    exact readString_unit control rest

theorem readString_text (s rest : List Char) :
    readString (s.flatMap escape ++ '"' :: rest) = .ok s := by
  induction s with
  | nil =>
      rw [List.flatMap_nil, List.nil_append, readString]
  | cons c s ih =>
      rw [List.flatMap_cons, List.append_assoc, readString_escape, ih]
      rfl

/-- What is left after a string, without the bound on its length. -/
def restOf {text : List Char} (left : Except Malformed (Rest text)) :
    Except Malformed (List Char) :=
  left.map Subtype.val

theorem skipString_plain {c : Char} (printable : 32 ≤ c.toNat) (quote : c ≠ '"')
    (backslash : c ≠ '\\') (rest : List Char) :
    restOf (skipString (c :: rest)) = restOf (skipString rest) := by
  rw [skipString]
  · rw [if_neg (show ¬ c.toNat < 32 by omega)]
    cases skipString rest <;> rfl
  · exact quote
  all_goals simp [backslash]

theorem skipString_letter {c letter : Char} (other : letter ≠ 'u')
    (means : unescape? letter = some c) (rest : List Char) :
    restOf (skipString ('\\' :: letter :: rest)) = restOf (skipString rest) := by
  rw [skipString]
  · simp only [means]
    cases skipString rest <;> rfl
  · exact other

theorem skipString_unit {c : Char} (control : c.toNat < 32) (rest : List Char) :
    restOf (skipString ('\\' :: 'u' :: '0' :: '0' :: hexDigit (c.toNat / 16) ::
      hexDigit (c.toNat % 16) :: rest)) = restOf (skipString rest) := by
  rw [skipString, readUnit_hexDigits (by omega)]
  change restOf (skipString rest >>= _) = _
  cases skipString rest <;> rfl

theorem skipString_escape (c : Char) (rest : List Char) :
    restOf (skipString (escape c ++ rest)) = restOf (skipString rest) := by
  rcases escape_cases c with ⟨printable, quote, backslash, text⟩ | ⟨letter, other, means, text⟩ |
    ⟨control, text⟩
  · rw [text]
    exact skipString_plain printable quote backslash rest
  · rw [text]
    exact skipString_letter other means rest
  · rw [text]
    exact skipString_unit control rest

theorem skipString_text (s rest : List Char) :
    restOf (skipString (s.flatMap escape ++ '"' :: rest)) = .ok rest := by
  induction s with
  | nil =>
      rw [List.flatMap_nil, List.nil_append, skipString]
      rfl
  | cons c s ih =>
      rw [List.flatMap_cons, List.append_assoc, skipString_escape, ih]

/-- What a step read, and what it left of the text. -/
def leaving {α : Type} {text : List Char} (step : α × Rest text) : α × List Char :=
  (step.1, step.2.val)

theorem readQuoted_text (s : String) (rest : List Char) :
    (readQuoted (s.toList.flatMap escape ++ '"' :: rest)).map leaving = .ok (.ok s, rest) := by
  have characters := readString_text s.toList rest
  have skipped := skipString_text s.toList rest
  rw [readQuoted]
  cases left : skipString (s.toList.flatMap escape ++ '"' :: rest) with
  | error fault =>
      rw [left] at skipped
      cases skipped
  | ok after =>
      rw [left] at skipped
      simp only [restOf, Except.map, Except.ok.injEq] at skipped
      simp only [characters, Except.map, leaving, skipped, String.ofList_toList]

end StoryMarkers.Json
