import StoryMarkers.Json.Document.Strings

set_option autoImplicit false

namespace StoryMarkers.Json

def isBlank (c : Char) : Bool := c = ' ' || c = '\n' || c = '\r' || c = '\t'

theorem length_dropWhile_le {α : Type} (p : α → Bool) (xs : List α) :
    (xs.dropWhile p).length ≤ xs.length :=
  (List.dropWhile_sublist p).length_le

theorem length_le_cons {rest text : List Char} (c : Char) (h : rest.length ≤ text.length) :
    rest.length ≤ (c :: text).length :=
  Nat.le_succ_of_le h

def skipBlanks (text : List Char) : Rest text :=
  ⟨text.dropWhile isBlank, length_dropWhile_le isBlank text⟩

/-- Text that ends early where a number needs a digit. -/
def digitBreak : List Char → Break
  | [] => ⟨.valueUnfinished, .invalidNumber⟩
  | _ => .both .invalidNumber

/-- One digit at least, and all that follow. -/
def readDigits (text : List Char) : Except Break (List Char × Rest text) :=
  match text.takeWhile Char.isDigit with
  | [] => .error (digitBreak text)
  | run => .ok (run, ⟨text.dropWhile Char.isDigit, length_dropWhile_le Char.isDigit text⟩)

/-- The whole part: digits of which the first is no zero unless it is the only one. -/
def readWhole (text : List Char) : Except Break (List Char × Rest text) := do
  let (run, rest) ← readDigits text
  if run.head? = some '0' ∧ 1 < run.length then .error (.both .invalidNumber)
  else .ok (run, rest)

/-- A point and digits, if there is a point. -/
def readFraction (text : List Char) : Except Break (Option (List Char) × Rest text) :=
  match text with
  | '.' :: rest => do
    let (run, ⟨after, h⟩) ← readDigits rest
    .ok (some run, ⟨after, by simp only [List.length_cons]; omega⟩)
  | text => .ok (none, ⟨text, Nat.le_refl _⟩)

/-- The mark of an exponent, its sign if any, and digits. -/
def readPower (text : List Char) : Except Break (Option Int × Rest text) :=
  match text with
  | [] => .ok (none, ⟨[], Nat.le_refl _⟩)
  | c :: rest =>
    if c = 'e' ∨ c = 'E' then
      match rest with
      | '-' :: digits => do
        let (run, ⟨after, h⟩) ← readDigits digits
        .ok (some (-(Decimal.ofDigits run : Int)),
          ⟨after, by simp only [List.length_cons]; omega⟩)
      | '+' :: digits => do
        let (run, ⟨after, h⟩) ← readDigits digits
        .ok (some (Decimal.ofDigits run), ⟨after, by simp only [List.length_cons]; omega⟩)
      | digits => do
        let (run, ⟨after, h⟩) ← readDigits digits
        .ok (some (Decimal.ofDigits run), ⟨after, length_le_cons c h⟩)
    else .ok (none, ⟨c :: rest, Nat.le_refl _⟩)

/-- A number after its sign. -/
def readNumber (negative : Bool) (text : List Char) : Except Break (NumberText × Rest text) := do
  let (whole, ⟨afterWhole, h₁⟩) ← readWhole text
  let (fraction, ⟨afterFraction, h₂⟩) ← readFraction afterWhole
  let (power, ⟨after, h₃⟩) ← readPower afterFraction
  let number : NumberText :=
    match fraction, power with
    | none, none => .whole negative (Decimal.ofDigits whole)
    | _, _ => .fraction (.ofParts negative whole (fraction.getD []) (power.getD 0))
  .ok (number, ⟨after, by omega⟩)

/-- The letters of a word, and what is after it. -/
def readWord : (word : List Char) → (text : List Char) → Except Break (Rest text)
  | [], text => .ok ⟨text, Nat.le_refl _⟩
  | _ :: _, [] => .error (.both .valueUnfinished)
  | w :: word, c :: text =>
    if c = w then do
      let ⟨rest, h⟩ ← readWord word text
      .ok ⟨rest, by simp only [List.length_cons]; omega⟩
    else .error (.both .wordExpected)

/-- The document of a step that may fail; a failed one leaves no text to go on with. -/
def ofStep {α : Type} {text : List Char} (make : α → Document) :
    Except Break (α × Rest text) → Document × Rest text
  | .ok (x, rest) => (make x, rest)
  | .error b => (.broken b, ⟨[], Nat.zero_le _⟩)

def ofWord {text : List Char} (value : Document) : Except Break (Rest text) → Document × Rest text
  | .ok rest => (value, rest)
  | .error b => (.broken b, ⟨[], Nat.zero_le _⟩)

/-- A string after its opening quote: the characters it spells and the text after it. -/
def readQuoted (text : List Char) : Except Break (Except Malformed String × Rest text) :=
  match skipString text with
  | .ok rest => .ok ((readString text).map String.ofList, rest)
  | .error skip =>
    match readString text with
    | .ok _ => .error (.both skip)
    | .error read => .error ⟨read, skip⟩

/-- Widens what is left of a shorter text. -/
def Rest.of {text shorter : List Char} (h : shorter.length ≤ text.length) (rest : Rest shorter) :
    Rest text :=
  ⟨rest.val, Nat.le_trans rest.property h⟩

mutual

def readValue (text : List Char) : Document × Rest text :=
  match skipBlanks text with
  | ⟨[], _⟩ => (.broken (.both .valueUnfinished), ⟨[], Nat.zero_le _⟩)
  | ⟨c :: rest, h⟩ =>
    have shorter : rest.length < text.length := h
    have le : rest.length ≤ text.length := Nat.le_of_lt shorter
    if c = '[' then
      let (items, after) := readItems rest
      (.array items, after.of le)
    else if c = '{' then
      let (entries, after) := readEntries rest
      (.object entries, after.of le)
    else if c = '"' then
      let (value, after) := ofStep Document.string (readQuoted rest)
      (value, after.of le)
    else if c = '-' then
      let (value, after) := ofStep Document.number (readNumber true rest)
      (value, after.of le)
    else if c.isDigit then
      let (value, after) := ofStep Document.number (readNumber false (c :: rest))
      (value, after.of h)
    else if c = 'n' then
      let (value, after) := ofWord .null (readWord "ull".toList rest)
      (value, after.of le)
    else if c = 't' then
      let (value, after) := ofWord (.bool true) (readWord "rue".toList rest)
      (value, after.of le)
    else if c = 'f' then
      let (value, after) := ofWord (.bool false) (readWord "alse".toList rest)
      (value, after.of le)
    else (.broken (.both .valueExpected), ⟨[], Nat.zero_le _⟩)
termination_by 3 * text.length

/-- The items after an opening bracket. -/
def readItems (text : List Char) : Items × Rest text :=
  match skipBlanks text with
  | ⟨[], _⟩ => (.cut (.both .listUnfinished), ⟨[], Nat.zero_le _⟩)
  | ⟨c :: rest, h⟩ =>
    if c = ']' then (.done, ⟨rest, Nat.le_of_lt h⟩)
    else
      let (items, after) := readItem (c :: rest)
      (items, after.of h)
termination_by 3 * text.length + 2
decreasing_by
  simp only [List.length_cons] at *
  omega

/-- An item and the items after it. -/
def readItem (text : List Char) : Items × Rest text :=
  match readValue text with
  | (item, ⟨rest, h⟩) =>
    match skipBlanks rest with
    | ⟨[], _⟩ => (.more item (.cut (.both .listUnfinished)), ⟨[], Nat.zero_le _⟩)
    | ⟨c :: after, h'⟩ =>
      have shorter : after.length < text.length := Nat.lt_of_lt_of_le h' h
      if c = ']' then (.more item .done, ⟨after, Nat.le_of_lt shorter⟩)
      else if c = ',' then
        match skipBlanks after with
        | ⟨[], _⟩ =>
          (.more item (.more (.broken (.both .valueUnfinished)) .done), ⟨[], Nat.zero_le _⟩)
        | ⟨d :: next, h''⟩ =>
          if d = ']' then
            (.more item (.cut ⟨.trailingComma, .valueExpected⟩), ⟨[], Nat.zero_le _⟩)
          else
            let (items, last) := readItem (d :: next)
            (.more item items, last.of (Nat.le_trans h'' (Nat.le_of_lt shorter)))
      else (.more item (.cut (.both .listCommaExpected)), ⟨[], Nat.zero_le _⟩)
termination_by 3 * text.length + 1
decreasing_by
  · omega
  · simp only [List.length_cons] at *
    omega

/-- The entries after an opening brace. -/
def readEntries (text : List Char) : Entries × Rest text :=
  match skipBlanks text with
  | ⟨[], _⟩ => (.cut (.both .objectUnfinished), ⟨[], Nat.zero_le _⟩)
  | ⟨c :: rest, h⟩ =>
    if c = '}' then (.done, ⟨rest, Nat.le_of_lt h⟩)
    else if c = '"' then
      let (entries, after) := readEntry rest
      (entries, after.of (Nat.le_of_lt h))
    else (.cut (.both .keyNotString), ⟨[], Nat.zero_le _⟩)
termination_by 3 * text.length + 1
decreasing_by
  simp only [List.length_cons] at *
  omega

/-- An entry after the opening quote of its key, and the entries after it. -/
def readEntry (text : List Char) : Entries × Rest text :=
  match readQuoted text with
  | .error b => (.cut b, ⟨[], Nat.zero_le _⟩)
  | .ok (key, ⟨rest, h⟩) =>
    match skipBlanks rest with
    | ⟨[], _⟩ =>
      (.more key (.broken (.both .objectUnfinished)) .done, ⟨[], Nat.zero_le _⟩)
    | ⟨c :: afterColon, h'⟩ =>
      if c = ':' then
        have shorter : afterColon.length < text.length := Nat.lt_of_lt_of_le h' h
        match readValue afterColon with
        | (value, ⟨afterValue, hv⟩) =>
          match skipBlanks afterValue with
          | ⟨[], _⟩ => (.more key value (.cut (.both .objectUnfinished)), ⟨[], Nat.zero_le _⟩)
          | ⟨d :: after, h''⟩ =>
            have less : after.length < text.length :=
              Nat.lt_trans (Nat.lt_of_lt_of_le h'' hv) shorter
            if d = '}' then (.more key value .done, ⟨after, Nat.le_of_lt less⟩)
            else if d = ',' then
              match skipBlanks after with
              | ⟨[], _⟩ =>
                (.more key value (.cut ⟨.valueUnfinished, .objectUnfinished⟩), ⟨[], Nat.zero_le _⟩)
              | ⟨e :: next, h₃⟩ =>
                have least : next.length < text.length := Nat.lt_trans h₃ less
                if e = '"' then
                  let (entries, last) := readEntry next
                  (.more key value entries, last.of (Nat.le_of_lt least))
                else if e = '}' then
                  (.more key value (.cut ⟨.trailingComma, .keyNotString⟩), ⟨[], Nat.zero_le _⟩)
                else (.more key value (.cut (.both .keyNotString)), ⟨[], Nat.zero_le _⟩)
            else
              (.more key value (.cut (.both .objectCommaExpected)), ⟨[], Nat.zero_le _⟩)
      else
        (.more key (.broken (.both .colonExpected)) .done, ⟨[], Nat.zero_le _⟩)
termination_by 3 * text.length

end

end StoryMarkers.Json
