import StoryMarkers.Json.Decode

set_option autoImplicit false

namespace StoryMarkers.Json

section Results

variable {α β ε : Type}

theorem bind_eq_ok {first : Except ε α} {next : α → Except ε β} {y : β}
    (done : first >>= next = .ok y) : ∃ x, first = .ok x ∧ next x = .ok y := by
  cases first with
  | error e => cases done
  | ok x => exact ⟨x, rfl, done⟩

theorem map_eq_ok {change : α → β} {first : Except ε α} {y : β}
    (done : change <$> first = .ok y) : ∃ x, first = .ok x ∧ change x = y := by
  cases first with
  | error e => cases done
  | ok x =>
      cases done
      exact ⟨x, rfl, rfl⟩

theorem ok_of_ofMalformed {x : α} {read : Except Malformed α}
    (done : ofMalformed read = .ok x) : read = .ok x := by
  cases read with
  | error fault => cases done
  | ok y =>
      cases done
      rfl

end Results

@[simp] theorem decodeValue_null (depth : Nat) : decodeValue depth .null = .ok .null := by
  cases depth <;> rfl

@[simp] theorem decodeValue_bool (depth : Nat) (b : Bool) :
    decodeValue depth (.bool b) = .ok (.bool b) := by
  cases depth <;> rfl

@[simp] theorem decodeValue_string (depth : Nat) (content : Except Malformed String) :
    decodeValue depth (.string content) = .string <$> ofMalformed content := by
  cases depth <;> rfl

@[simp] theorem decodeValue_number (depth : Nat) (text : NumberText) :
    decodeValue depth (.number text) = .number <$> ofMalformed text.value := by
  cases depth <;> rfl

/-- The ways in which a document is read as a free value. -/
inductive ReadAs : Nat → Document → Value → Prop
  | null (depth : Nat) : ReadAs depth .null .null
  | bool (depth : Nat) (b : Bool) : ReadAs depth (.bool b) (.bool b)
  | number (depth : Nat) (text : NumberText) (n : Number) (value : text.value = .ok n) :
      ReadAs depth (.number text) (.number n)
  | string (depth : Nat) (s : String) : ReadAs depth (.string (.ok s)) (.string s)
  | array (depth : Nat) (items : Items) (xs : List Value)
      (decoded : items.decode (decodeValue depth) = .ok xs) :
      ReadAs (depth + 1) (.array items) (.array xs)
  | object (depth : Nat) (entries : Entries) (xs : List (String × Value))
      (decoded : entries.decode (decodeValue depth) = .ok xs) :
      ReadAs (depth + 1) (.object entries) (.object (sortEntries xs))

theorem readAs_of_decodeValue {depth : Nat} {doc : Document} {v : Value}
    (decoded : decodeValue depth doc = .ok v) : ReadAs depth doc v := by
  cases doc with
  | null =>
      rw [decodeValue_null] at decoded
      cases decoded
      exact .null depth
  | bool b =>
      rw [decodeValue_bool] at decoded
      cases decoded
      exact .bool depth b
  | number text =>
      rw [decodeValue_number] at decoded
      obtain ⟨n, value, rfl⟩ := map_eq_ok decoded
      exact .number depth text n (ok_of_ofMalformed value)
  | string content =>
      rw [decodeValue_string] at decoded
      obtain ⟨s, value, rfl⟩ := map_eq_ok decoded
      cases ok_of_ofMalformed value
      exact .string depth s
  | array items =>
      cases depth with
      | zero => cases decoded
      | succ depth =>
          obtain ⟨xs, read, rfl⟩ := map_eq_ok decoded
          exact .array depth items xs read
  | object entries =>
      cases depth with
      | zero => cases decoded
      | succ depth =>
          obtain ⟨xs, read, rfl⟩ := map_eq_ok decoded
          exact .object depth entries xs read
  | broken b => cases depth <;> cases decoded

theorem decodeValue_eq_null {depth : Nat} {doc : Document}
    (decoded : decodeValue depth doc = .ok .null) : doc = .null := by
  cases readAs_of_decodeValue decoded
  rfl

/-- Anything but null is there. -/
theorem decodeOption_of_ne_null {α : Type} {item : Decoder α} {depth : Nat} {doc : Document}
    (there : doc ≠ .null) : decodeOption item depth doc = some <$> item depth doc := by
  cases doc <;> first | rfl | exact absurd rfl there

end StoryMarkers.Json
