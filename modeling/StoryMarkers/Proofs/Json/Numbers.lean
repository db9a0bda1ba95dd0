import Mathlib.Data.List.TakeWhile
import StoryMarkers.Proofs.Json.Strings

set_option autoImplicit false

namespace StoryMarkers.Json

/-- Whether a character could go on with a number. -/
def continuesNumber (c : Char) : Bool := c.isDigit || c == '.' || c == 'e' || c == 'E'

/-- Whether a text starts with nothing that could go on with a number before it. -/
def Ends (rest : List Char) : Prop := ∀ c ∈ rest.head?, continuesNumber c = false

theorem ends_nil : Ends [] := by
  intro c impossible
  cases impossible

theorem ends_cons {c : Char} (stop : continuesNumber c = false) (rest : List Char) :
    Ends (c :: rest) := by
  intro d here
  rw [List.head?_cons, Option.mem_some_iff] at here
  rwa [← here]

section Span

variable {p : Char → Bool}

private theorem span_of_head {rest : List Char} (stop : ∀ c ∈ rest.head?, p c = false) :
    rest.takeWhile p = [] ∧ rest.dropWhile p = rest := by
  cases rest with
  | nil => exact ⟨rfl, rfl⟩
  | cons c rest =>
      have here := stop c rfl
      simp [here]

/-- A run that is ended by what follows it does not depend on what follows further. -/
theorem span_append {rest : List Char} (stop : ∀ c ∈ rest.head?, p c = false)
    (text : List Char) :
    (text ++ rest).takeWhile p = text.takeWhile p ∧
      (text ++ rest).dropWhile p = text.dropWhile p ++ rest := by
  induction text with
  | nil => exact span_of_head stop
  | cons c text ih =>
      obtain ⟨front, back⟩ := ih
      by_cases inside : p c = true
      · simp [inside, front, back]
      · simp [inside]

end Span

theorem Ends.isDigit {rest : List Char} (ends : Ends rest) :
    ∀ c ∈ rest.head?, c.isDigit = false := by
  intro c here
  have stop := ends c here
  simp only [continuesNumber, Bool.or_eq_false_iff] at stop
  exact stop.1.1.1

section Local

variable {α β : Type}

/--
What is read from the front of a text does not depend on what follows the text, as long as that
could not go on with a number.
-/
def Local (reader : List Char → Except Break (α × List Char)) : Prop :=
  ∀ ⦃text left rest : List Char⦄ ⦃x : α⦄, Ends rest →
    reader text = .ok (x, left) → reader (text ++ rest) = .ok (x, left ++ rest)

theorem Local.bind {first : List Char → Except Break (α × List Char)}
    {next : α → List Char → Except Break (β × List Char)} (here : Local first)
    (there : ∀ x, Local (next x)) :
    Local fun text => (first text).bind fun step => next step.1 step.2 := by
  intro text left rest y ends read
  change (first text).bind _ = _ at read
  change (first (text ++ rest)).bind _ = _
  cases step : first text with
  | error b =>
      rw [step] at read
      cases read
  | ok pair =>
      obtain ⟨x, middle⟩ := pair
      rw [step] at read
      rw [here ends step]
      exact there x ends read

theorem Local.map {reader : List Char → Except Break (α × List Char)} (here : Local reader)
    (change : α → β) :
    Local fun text => (reader text).map fun step => (change step.1, step.2) := by
  intro text left rest y ends read
  change (reader text).map _ = _ at read
  change (reader (text ++ rest)).map _ = _
  cases step : reader text with
  | error b =>
      rw [step] at read
      cases read
  | ok pair =>
      obtain ⟨x, middle⟩ := pair
      rw [step] at read
      rw [here ends step]
      cases read
      rfl

end Local

theorem readDigits_local : Local fun text => (readDigits text).map leaving := by
  intro text left rest run ends read
  obtain ⟨front, back⟩ := span_append ends.isDigit text
  simp only [readDigits, front] at read ⊢
  cases digits : text.takeWhile Char.isDigit with
  | nil =>
      rw [digits] at read
      cases read
  | cons d more =>
      rw [digits] at read
      simp only [Except.map, leaving, Except.ok.injEq, Prod.mk.injEq] at read ⊢
      exact ⟨read.1, by rw [back, read.2]⟩

/-- A run of digits is a whole part if it is one digit or does not start with a zero. -/
theorem readWhole_eq (text : List Char) :
    (readWhole text).map leaving = ((readDigits text).map leaving).bind fun step =>
      if step.1.head? = some '0' ∧ 1 < step.1.length then .error (.both .invalidNumber)
      else .ok (step.1, step.2) := by
  rw [readWhole]
  cases readDigits text with
  | error b => rfl
  | ok step =>
      obtain ⟨run, left⟩ := step
      change Except.map leaving (if run.head? = some '0' ∧ 1 < run.length then _ else _) =
        if run.head? = some '0' ∧ 1 < run.length then _ else _
      split <;> rfl

theorem readWhole_local : Local fun text => (readWhole text).map leaving := by
  have check (run : List Char) : Local fun left =>
      if run.head? = some '0' ∧ 1 < run.length then
        (Except.error (.both .invalidNumber) : Except Break (List Char × List Char))
      else .ok (run, left) := by
    intro text left rest whole ends read
    dsimp only at read ⊢
    split at read
    · cases read
    · rename_i fits
      rw [if_neg fits]
      cases read
      rfl
  simp only [readWhole_eq]
  exact readDigits_local.bind check

theorem readFraction_point (text : List Char) :
    (readFraction ('.' :: text)).map leaving =
      ((readDigits text).map leaving).map fun step => (some step.1, step.2) := by
  rw [readFraction]
  cases readDigits text <;> rfl

theorem readFraction_other {text : List Char} (other : text.head? ≠ some '.') :
    (readFraction text).map leaving = .ok (none, text) := by
  unfold readFraction
  split
  · simp at other
  · rfl

theorem readFraction_local : Local fun text => (readFraction text).map leaving := by
  intro text left rest fraction ends read
  dsimp only at read ⊢
  cases text with
  | nil =>
      have other : rest.head? ≠ some '.' := fun point => by
        simpa [continuesNumber] using ends '.' point
      rw [readFraction_other (by simp)] at read
      cases read
      exact readFraction_other other
  | cons c text =>
      by_cases point : c = '.'
      · subst point
        rw [readFraction_point] at read
        rw [List.cons_append, readFraction_point]
        exact (readDigits_local.map some) ends read
      · have other : ∀ text : List Char, (c :: text).head? ≠ some '.' := by simpa using point
        rw [readFraction_other (other text)] at read
        cases read
        exact readFraction_other (other _)

theorem readPower_minus {mark : Char} (marks : mark = 'e' ∨ mark = 'E') (text : List Char) :
    (readPower (mark :: '-' :: text)).map leaving =
      ((readDigits text).map leaving).map fun step =>
        (some (-(Decimal.ofDigits step.1 : Int)), step.2) := by
  rw [readPower, if_pos marks]
  cases readDigits text <;> rfl

theorem readPower_plus {mark : Char} (marks : mark = 'e' ∨ mark = 'E') (text : List Char) :
    (readPower (mark :: '+' :: text)).map leaving =
      ((readDigits text).map leaving).map fun step =>
        (some (Decimal.ofDigits step.1 : Int), step.2) := by
  rw [readPower, if_pos marks]
  cases readDigits text <;> rfl

theorem readPower_bare {mark : Char} (marks : mark = 'e' ∨ mark = 'E') {text : List Char}
    (minus : text.head? ≠ some '-') (plus : text.head? ≠ some '+') :
    (readPower (mark :: text)).map leaving =
      ((readDigits text).map leaving).map fun step =>
        (some (Decimal.ofDigits step.1 : Int), step.2) := by
  simp only [readPower, if_pos marks]
  split
  · simp at minus
  · simp at plus
  · cases readDigits text <;> rfl

theorem readPower_other {text : List Char} (e : text.head? ≠ some 'e')
    (capital : text.head? ≠ some 'E') : (readPower text).map leaving = .ok (none, text) := by
  cases text with
  | nil => rfl
  | cons c text =>
      have plain : ¬ (c = 'e' ∨ c = 'E') := by simpa using And.intro e capital
      simp only [readPower, if_neg plain]
      rfl

theorem readPower_local : Local fun text => (readPower text).map leaving := by
  intro text left rest power ends read
  dsimp only at read ⊢
  cases text with
  | nil =>
      have e : rest.head? ≠ some 'e' := fun mark => by
        simpa [continuesNumber] using ends 'e' mark
      have capital : rest.head? ≠ some 'E' := fun mark => by
        simpa [continuesNumber] using ends 'E' mark
      rw [readPower_other (by simp) (by simp)] at read
      cases read
      exact readPower_other e capital
  | cons c text =>
      by_cases marks : c = 'e' ∨ c = 'E'
      · cases text with
        | nil =>
            rw [readPower_bare marks (by simp) (by simp)] at read
            cases read
        | cons sign text =>
            by_cases minus : sign = '-'
            · subst minus
              rw [readPower_minus marks] at read
              rw [List.cons_append, List.cons_append, readPower_minus marks]
              exact (readDigits_local.map fun run => some (-(Decimal.ofDigits run : Int))) ends read
            by_cases plus : sign = '+'
            · subst plus
              rw [readPower_plus marks] at read
              rw [List.cons_append, List.cons_append, readPower_plus marks]
              exact (readDigits_local.map fun run => some (Decimal.ofDigits run : Int)) ends read
            rw [readPower_bare marks (by simpa using minus) (by simpa using plus)] at read
            rw [List.cons_append, readPower_bare marks (by simpa using minus) (by simpa using plus)]
            exact (readDigits_local.map fun run => some (Decimal.ofDigits run : Int)) ends read
      · have plain : ∀ text : List Char,
            (readPower (c :: text)).map leaving = .ok (none, c :: text) := fun text =>
          readPower_other (by simpa using fun mark => marks (Or.inl mark))
            (by simpa using fun mark => marks (Or.inr mark))
        rw [plain] at read
        cases read
        exact plain (text ++ rest)

/-- The number of a whole part, decimals and a power of ten. -/
def NumberText.ofParts (negative : Bool) (whole : List Char) (decimals : Option (List Char))
    (power : Option Int) : NumberText :=
  match decimals, power with
  | none, none => .whole negative (Decimal.ofDigits whole)
  | _, _ => .fraction (.ofParts negative whole (decimals.getD []) (power.getD 0))

theorem readNumber_eq (negative : Bool) (text : List Char) :
    (readNumber negative text).map leaving =
      ((readWhole text).map leaving).bind fun first =>
        ((readFraction first.2).map leaving).bind fun second =>
          ((readPower second.2).map leaving).map fun third =>
            (.ofParts negative first.1 second.1 third.1, third.2) := by
  rw [readNumber]
  cases readWhole text with
  | error b => rfl
  | ok first =>
      obtain ⟨whole, afterWhole, h₁⟩ := first
      change (readFraction afterWhole >>= _).map leaving =
        ((readFraction afterWhole).map leaving).bind _
      cases readFraction afterWhole with
      | error b => rfl
      | ok second =>
          obtain ⟨fraction, afterFraction, h₂⟩ := second
          change (readPower afterFraction >>= _).map leaving =
            ((readPower afterFraction).map leaving).map _
          cases readPower afterFraction with
          | error b => rfl
          | ok third =>
              obtain ⟨power, after, h₃⟩ := third
              cases fraction <;> cases power <;> rfl

theorem readNumber_local (negative : Bool) :
    Local fun text => (readNumber negative text).map leaving := by
  simp only [readNumber_eq]
  exact readWhole_local.bind fun whole => readFraction_local.bind fun fraction =>
    readPower_local.map _

theorem ofDigits_toDigits (n : Nat) : Decimal.ofDigits (Nat.toDigits 10 n) = n := by
  have spelled := Nat.ofDigitChars_ten_toDigits (n := n)
  rwa [Nat.ofDigitChars_eq_foldl] at spelled

/-- Only a single digit may be a zero that leads. -/
theorem toDigits_leads (n : Nat) :
    ¬ ((Nat.toDigits 10 n).head? = some '0' ∧ 1 < (Nat.toDigits 10 n).length) := by
  induction n using Nat.strongRecOn with
  | ind n ih =>
      rw [Nat.toDigits_eq_if (by omega)]
      split
      · simp
      · rename_i large
        have small : n / 10 < n := by omega
        have leads := ih (n / 10) small
        have front (last : List Char) : (Nat.toDigits 10 (n / 10) ++ last).head? =
            (Nat.toDigits 10 (n / 10)).head? := by
          rw [List.head?_append, List.head?_eq_some_head Nat.toDigits_ne_nil, Option.some_or]
        rintro ⟨zero, -⟩
        rw [front] at zero
        by_cases single : n / 10 < 10
        · rw [Nat.toDigits_of_lt_base single] at zero
          have positive : 0 < n / 10 := by omega
          have digits : ∀ d < 10, 0 < d → Nat.digitChar d ≠ '0' := by decide
          exact digits _ single positive (by simpa using zero)
        · have long : ¬ (Nat.toDigits 10 (n / 10)).length ≤ 1 := by
            rw [Nat.length_toDigits_le_iff (by omega) (by omega)]
            omega
          exact leads ⟨zero, by omega⟩

theorem readDigits_toDigits (n : Nat) :
    (readDigits (Nat.toDigits 10 n)).map leaving = .ok (Nat.toDigits 10 n, []) := by
  have digits : ∀ c ∈ Nat.toDigits 10 n, c.isDigit = true := fun c inside =>
    Nat.isDigit_of_mem_toDigits (by omega) (by omega) inside
  have nonempty : Nat.toDigits 10 n ≠ [] := Nat.toDigits_ne_nil
  generalize Nat.toDigits 10 n = run at digits nonempty
  have front : run.takeWhile Char.isDigit = run := List.takeWhile_eq_self_iff.mpr digits
  have back : run.dropWhile Char.isDigit = [] := List.dropWhile_eq_nil_iff.mpr digits
  cases run with
  | nil => exact absurd rfl nonempty
  | cons d run => simp [readDigits, front, back, Except.map, leaving]

theorem readNumber_toDigits (negative : Bool) (n : Nat) :
    (readNumber negative (Nat.toDigits 10 n)).map leaving = .ok (.whole negative n, []) := by
  rw [readNumber_eq, readWhole_eq, readDigits_toDigits]
  simp only [Except.bind, if_neg (toDigits_leads n)]
  change Except.ok (NumberText.whole negative (Decimal.ofDigits (Nat.toDigits 10 n)), []) = _
  rw [ofDigits_toDigits]

end StoryMarkers.Json
