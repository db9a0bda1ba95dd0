import Mathlib.Data.List.DropRight
import StoryMarkers.Proofs.Json.Numbers

set_option autoImplicit false

namespace StoryMarkers.Json

/-- What a step read, and what is left after the blanks behind it. -/
def settling {α : Type} {text : List Char} (step : α × Rest text) : α × List Char :=
  (step.1, step.2.val.dropWhile isBlank)

theorem settling_of_leaving {α : Type} {text left : List Char} {step : α × Rest text} {x : α}
    (read : leaving step = (x, left)) : settling step = (x, left.dropWhile isBlank) := by
  cases read
  rfl

theorem skipBlanks_of_first {text rest : List Char} {c : Char}
    (first : text.dropWhile isBlank = c :: rest) :
    ∃ bound, skipBlanks text = ⟨c :: rest, bound⟩ :=
  ⟨first ▸ (skipBlanks text).property, Subtype.ext first⟩

theorem readValue_eq {text rest : List Char} {c : Char}
    (first : text.dropWhile isBlank = c :: rest) :
    leaving (readValue text) =
      if c = '[' then (Document.array (readItems rest).1, (readItems rest).2.val)
      else if c = '{' then (Document.object (readEntries rest).1, (readEntries rest).2.val)
      else if c = '"' then leaving (ofStep Document.string (readQuoted rest))
      else if c = '-' then leaving (ofStep Document.number (readNumber true rest))
      else if c.isDigit then leaving (ofStep Document.number (readNumber false (c :: rest)))
      else if c = 'n' then leaving (ofWord .null (readWord "ull".toList rest))
      else if c = 't' then leaving (ofWord (.bool true) (readWord "rue".toList rest))
      else if c = 'f' then leaving (ofWord (.bool false) (readWord "alse".toList rest))
      else (.broken (.both .valueExpected), []) := by
  obtain ⟨bound, shown⟩ := skipBlanks_of_first first
  rw [readValue, shown]
  simp only [apply_ite leaving]
  rfl

theorem readValue_blank {text : List Char} (blank : text.dropWhile isBlank = []) :
    leaving (readValue text) = (.broken (.both .valueUnfinished), []) := by
  have shown : skipBlanks text = ⟨[], Nat.zero_le _⟩ := Subtype.ext blank
  rw [readValue, shown]
  rfl

theorem readItems_done {text rest : List Char} (first : text.dropWhile isBlank = ']' :: rest) :
    leaving (readItems text) = (.done, rest) := by
  obtain ⟨bound, shown⟩ := skipBlanks_of_first first
  rw [readItems, shown]
  rfl

theorem readItems_more {text rest : List Char} {c : Char}
    (first : text.dropWhile isBlank = c :: rest) (opens : c ≠ ']') :
    leaving (readItems text) = leaving (readItem (c :: rest)) := by
  obtain ⟨bound, shown⟩ := skipBlanks_of_first first
  simp only [readItems, shown, if_neg opens]
  rfl

theorem readItem_last {text after : List Char} {item : Document}
    (value : settling (readValue text) = (item, ']' :: after)) :
    leaving (readItem text) = (.more item .done, after) := by
  rw [readItem]
  generalize readValue text = step at value ⊢
  obtain ⟨doc, rest, shorter⟩ := step
  rw [settling, Prod.mk.injEq] at value
  obtain ⟨rfl, first⟩ := value
  obtain ⟨bound, shown⟩ := skipBlanks_of_first first
  simp only [shown]
  rfl

theorem readItem_more {text after next : List Char} {item : Document} {d : Char}
    (value : settling (readValue text) = (item, ',' :: after))
    (first : after.dropWhile isBlank = d :: next) (opens : d ≠ ']') :
    leaving (readItem text) =
      (.more item (readItem (d :: next)).1, (readItem (d :: next)).2.val) := by
  rw [readItem]
  generalize readValue text = step at value ⊢
  obtain ⟨doc, rest, shorter⟩ := step
  rw [settling, Prod.mk.injEq] at value
  obtain ⟨rfl, comma⟩ := value
  obtain ⟨bound, shown⟩ := skipBlanks_of_first comma
  obtain ⟨bound', shown'⟩ := skipBlanks_of_first first
  simp only [shown, shown', if_neg opens]
  rfl

theorem readEntries_done {text rest : List Char} (first : text.dropWhile isBlank = '}' :: rest) :
    leaving (readEntries text) = (.done, rest) := by
  obtain ⟨bound, shown⟩ := skipBlanks_of_first first
  rw [readEntries, shown]
  rfl

theorem readEntries_more {text rest : List Char} (first : text.dropWhile isBlank = '"' :: rest) :
    leaving (readEntries text) = leaving (readEntry rest) := by
  obtain ⟨bound, shown⟩ := skipBlanks_of_first first
  rw [readEntries, shown]
  rfl

/-- After a key and its value comes the end of the object or the next key. -/
theorem readEntry_eq {text afterColon after : List Char} {key : Except Malformed String}
    {item : Document} {d : Char}
    (quoted : (readQuoted text).map leaving = .ok (key, ':' :: afterColon))
    (value : settling (readValue afterColon) = (item, d :: after)) :
    (d = '}' → leaving (readEntry text) = (.more key item .done, after)) ∧
      (d = ',' → ∀ next, after.dropWhile isBlank = '"' :: next →
        leaving (readEntry text) =
          (.more key item (readEntry next).1, (readEntry next).2.val)) := by
  rw [readEntry]
  generalize readQuoted text = front at quoted ⊢
  cases front with
  | error b => cases quoted
  | ok step =>
      obtain ⟨name, rest, shorter⟩ := step
      simp only [Except.map, leaving, Except.ok.injEq, Prod.mk.injEq] at quoted
      obtain ⟨rfl, rfl⟩ := quoted
      have first : (':' :: afterColon).dropWhile isBlank = ':' :: afterColon := rfl
      obtain ⟨bound, colon⟩ := skipBlanks_of_first first
      simp only [colon]
      generalize readValue afterColon = step at value ⊢
      obtain ⟨doc, left, shorter'⟩ := step
      rw [settling, Prod.mk.injEq] at value
      obtain ⟨rfl, second⟩ := value
      obtain ⟨bound', shown⟩ := skipBlanks_of_first second
      simp only [shown]
      refine ⟨?_, ?_⟩
      · rintro rfl
        rfl
      · rintro rfl next quote
        obtain ⟨bound'', shown'⟩ := skipBlanks_of_first quote
        simp only [shown']
        rfl

theorem settling_dropWhile (text : List Char) :
    settling (readValue (text.dropWhile isBlank)) = settling (readValue text) := by
  have same : leaving (readValue (text.dropWhile isBlank)) = leaving (readValue text) := by
    cases first : text.dropWhile isBlank with
    | nil => rw [readValue_blank rfl, readValue_blank first]
    | cons c rest =>
        have again : (c :: rest).dropWhile isBlank = c :: rest := by
          rw [← first, List.dropWhile_idempotent isBlank text]
        rw [readValue_eq again, readValue_eq first]
  exact settling_of_leaving same

theorem readWord_append (word rest : List Char) :
    (readWord word (word ++ rest)).map Subtype.val = .ok rest := by
  induction word with
  | nil => rfl
  | cons c word ih =>
      change Except.map Subtype.val
        (if c = c then readWord word (word ++ rest) >>= _ else _) = _
      rw [if_pos rfl]
      cases read : readWord word (word ++ rest) with
      | error b =>
          rw [read] at ih
          cases ih
      | ok left =>
          rw [read] at ih
          exact ih

theorem ofWord_of_read {text left : List Char} {doc : Document} {step : Except Break (Rest text)}
    (read : step.map Subtype.val = .ok left) : leaving (ofWord doc step) = (doc, left) := by
  cases step with
  | error b => cases read
  | ok rest =>
      cases read
      rfl

theorem ofStep_of_read {α : Type} {text left : List Char} {make : α → Document} {x : α}
    {step : Except Break (α × Rest text)} (read : step.map leaving = .ok (x, left)) :
    leaving (ofStep make step) = (make x, left) := by
  cases step with
  | error b => cases read
  | ok step =>
      obtain ⟨y, rest⟩ := step
      simp only [Except.map, leaving, Except.ok.injEq, Prod.mk.injEq] at read
      obtain ⟨rfl, rfl⟩ := read
      rfl

theorem read_of_ofStep {text left : List Char} {n : NumberText}
    {step : Except Break (NumberText × Rest text)}
    (read : leaving (ofStep Document.number step) = (.number n, left)) :
    step.map leaving = .ok (n, left) := by
  cases step with
  | error b => cases read
  | ok step =>
      obtain ⟨y, rest⟩ := step
      simp only [ofStep, leaving, Prod.mk.injEq, Document.number.injEq] at read
      obtain ⟨rfl, rfl⟩ := read
      rfl

/-- A digit starts a number and nothing else. -/
theorem readValue_digit {text rest : List Char} {c : Char}
    (first : text.dropWhile isBlank = c :: rest) (digit : c.isDigit = true) :
    leaving (readValue text) =
      leaving (ofStep Document.number (readNumber false (c :: rest))) := by
  have others : c ≠ '[' ∧ c ≠ '{' ∧ c ≠ '"' ∧ c ≠ '-' := by
    refine ⟨?_, ?_, ?_, ?_⟩ <;> rintro rfl <;> cases digit
  obtain ⟨bracket, brace, quote, sign⟩ := others
  rw [readValue_eq first, if_neg bracket, if_neg brace, if_neg quote, if_neg sign, if_pos digit]

/-- A number starts with a digit or with a minus sign. -/
theorem number_starts {text left : List Char} {n : NumberText}
    (read : leaving (readValue text) = (.number n, left)) :
    ∃ c rest, text.dropWhile isBlank = c :: rest ∧ (c = '-' ∨ c.isDigit = true) := by
  cases first : text.dropWhile isBlank with
  | nil =>
      rw [readValue_blank first] at read
      cases read
  | cons c rest =>
      refine ⟨c, rest, rfl, ?_⟩
      rw [readValue_eq first] at read
      by_cases sign : c = '-'
      · exact Or.inl sign
      by_cases digit : c.isDigit = true
      · exact Or.inr digit
      rw [if_neg sign, if_neg digit] at read
      -- Every other first character starts a document of another kind, or none.
      repeat' split at read
      · cases read
      · cases read
      · cases quoted : readQuoted rest <;> rw [quoted] at read <;> cases read
      · cases word : readWord "ull".toList rest <;> rw [word] at read <;> cases read
      · cases word : readWord "rue".toList rest <;> rw [word] at read <;> cases read
      · cases word : readWord "alse".toList rest <;> rw [word] at read <;> cases read
      · cases read

/-- A number is read the same from a longer text. -/
theorem readValue_number_append {text left rest : List Char} {n : NumberText} (ends : Ends rest)
    (read : leaving (readValue text) = (.number n, left)) :
    leaving (readValue (text ++ rest)) = (.number n, left ++ rest) := by
  obtain ⟨c, after, first, sign | digit⟩ := number_starts read
  all_goals
    have first' : (text ++ rest).dropWhile isBlank = c :: (after ++ rest) := by
      simp [List.dropWhile_append, first]
  · subst sign
    rw [readValue_eq first] at read
    rw [readValue_eq first']
    exact ofStep_of_read (readNumber_local true ends (read_of_ofStep read))
  · rw [readValue_digit first digit] at read
    rw [readValue_digit first' digit]
    exact ofStep_of_read (readNumber_local false ends (read_of_ofStep read))

theorem readValue_toDigits (n : Nat) :
    leaving (readValue (Nat.toDigits 10 n)) = (.number (.whole false n), []) := by
  have digits : ∀ c ∈ Nat.toDigits 10 n, c.isDigit = true := fun c inside =>
    Nat.isDigit_of_mem_toDigits (by omega) (by omega) inside
  have read := readNumber_toDigits false n
  cases spelled : Nat.toDigits 10 n with
  | nil => exact absurd spelled Nat.toDigits_ne_nil
  | cons c rest =>
      have digit := digits c (by simp [spelled])
      have first : (c :: rest).dropWhile isBlank = c :: rest := by
        rw [List.dropWhile_cons_of_neg]
        intro blank
        simp only [isBlank, Bool.or_eq_true, decide_eq_true_eq] at blank
        rcases blank with ((rfl | rfl) | rfl) | rfl <;> cases digit
      rw [spelled] at read
      rw [readValue_digit first digit]
      exact ofStep_of_read read

theorem readValue_minus_toDigits (n : Nat) :
    leaving (readValue ('-' :: Nat.toDigits 10 n)) = (.number (.whole true n), []) := by
  have first : ('-' :: Nat.toDigits 10 n).dropWhile isBlank = '-' :: Nat.toDigits 10 n := rfl
  rw [readValue_eq first]
  exact ofStep_of_read (readNumber_toDigits true n)

end StoryMarkers.Json
