import StoryMarkers.Proofs.Json.Decoding

set_option autoImplicit false

namespace StoryMarkers.Json.Value

mutual

/-- How many arrays and objects stand inside each other. -/
def nesting : Value → Nat
  | .array items => itemsNesting items + 1
  | .object entries => entriesNesting entries + 1
  | _ => 0

def itemsNesting : List Value → Nat
  | [] => 0
  | item :: rest => max item.nesting (itemsNesting rest)

def entriesNesting : List (String × Value) → Nat
  | [] => 0
  | (_, value) :: rest => max value.nesting (entriesNesting rest)

end

theorem itemsNesting_le_iff {items : List Value} {n : Nat} :
    itemsNesting items ≤ n ↔ ∀ item ∈ items, item.nesting ≤ n := by
  induction items with
  | nil => simp [itemsNesting]
  | cons item rest ih => rw [itemsNesting, List.forall_mem_cons, max_le_iff, ih]

theorem entriesNesting_le_iff {entries : List (String × Value)} {n : Nat} :
    entriesNesting entries ≤ n ↔ ∀ entry ∈ entries, entry.2.nesting ≤ n := by
  induction entries with
  | nil => simp [entriesNesting]
  | cons entry rest ih => rw [entriesNesting, List.forall_mem_cons, max_le_iff, ih]

/-- A value that some document decodes to, however deep it nests. -/
def Representable (v : Value) : Prop := ∃ depth, v.Readable depth

variable {depth : Nat} {v : Value}

theorem Readable.nesting_le (readable : v.Readable depth) : v.nesting ≤ depth := by
  induction readable with
  | array depth items all ih =>
      exact Nat.succ_le_succ (itemsNesting_le_iff.mpr ih)
  | object depth entries sorted all ih =>
      exact Nat.succ_le_succ (entriesNesting_le_iff.mpr ih)
  | _ => exact Nat.zero_le _

theorem Readable.of_nesting_le {enough : Nat} (readable : v.Readable depth)
    (fits : v.nesting ≤ enough) : v.Readable enough := by
  induction readable generalizing enough with
  | null => exact .null enough
  | bool depth b => exact .bool enough b
  | number depth n back => exact .number enough n back
  | string depth s => exact .string enough s
  | array depth items all ih =>
      obtain ⟨enough, rfl⟩ := Nat.exists_eq_succ_of_ne_zero (Nat.ne_zero_of_lt fits)
      have inner := itemsNesting_le_iff.mp (Nat.le_of_succ_le_succ fits)
      exact .array enough items fun item inside => ih item inside (inner item inside)
  | object depth entries sorted all ih =>
      obtain ⟨enough, rfl⟩ := Nat.exists_eq_succ_of_ne_zero (Nat.ne_zero_of_lt fits)
      have inner := entriesNesting_le_iff.mp (Nat.le_of_succ_le_succ fits)
      exact .object enough entries sorted fun entry inside => ih entry inside (inner entry inside)

theorem readable_iff : v.Readable depth ↔ v.Representable ∧ v.nesting ≤ depth := by
  constructor
  · intro readable
    exact ⟨⟨depth, readable⟩, readable.nesting_le⟩
  · rintro ⟨⟨more, readable⟩, fits⟩
    exact readable.of_nesting_le fits

end StoryMarkers.Json.Value
