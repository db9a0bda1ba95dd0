import StoryMarkers.Position
import StoryMarkers.Proofs.Text.Pieces

set_option autoImplicit false

namespace StoryMarkers.Position

theorem readNumber_blank {piece : List Char} (blank : ∀ c ∈ piece, Text.isBlank c = true) :
    readNumber piece = 0 := by
  rw [readNumber, Text.trim_eq_nil_iff.mpr blank]

theorem readNumber_of_not_blank {piece : List Char}
    (shown : ¬ ∀ c ∈ piece, Text.isBlank c = true) :
    readNumber piece =
      (Decimal.readFloat? (Text.trim Text.isBlank piece)).getD notANumber := by
  rw [readNumber]
  split
  · rename_i empty
    exact absurd (Text.trim_eq_nil_iff.mp empty) shown
  · rfl

theorem isNaN_notANumber : notANumber.isNaN = true := by decide +kernel

theorem read_eq_nil_iff (text : String) :
    read text = [] ↔ ∀ c ∈ text.toList, isWrapping c = true := by
  rw [← Text.trim_eq_nil_iff, read]
  split
  · rename_i empty
    simp [empty]
  · rename_i shown
    simpa [List.splitOn_ne_nil] using shown

theorem read_eq_map {text : String} (shown : ¬ ∀ c ∈ text.toList, isWrapping c = true) :
    read text = ((Text.trim isWrapping text.toList).splitOn ',').map readNumber := by
  rw [read]
  split
  · rename_i empty
    exact absurd (Text.trim_eq_nil_iff.mp empty) shown
  · rfl

theorem read_wrapped {front text back : String} (before : ∀ c ∈ front.toList, isWrapping c = true)
    (behind : ∀ c ∈ back.toList, isWrapping c = true) :
    read (front ++ text ++ back) = read text := by
  have same : Text.trim isWrapping (front ++ text ++ back).toList =
      Text.trim isWrapping text.toList := by
    rw [String.toList_append, String.toList_append, Text.trim_append_right behind,
      Text.trim_append_left before]
  rw [read, same, read]

/-- A position has one number for each piece between commas. Brackets and blanks around the text do
not matter, and a text of nothing else has no numbers. Any other is cut at its commas, without what
wraps it in front of the first piece and behind the last one, and each piece is read on its own: as
zero if it is blank, as the number that it spells, or as what is not a number. -/
theorem read_by_pieces (text : String) :
    (∀ front back : String, (∀ c ∈ front.toList, isWrapping c = true) →
      (∀ c ∈ back.toList, isWrapping c = true) → read (front ++ text ++ back) = read text) ∧
    (read text = [] ↔ ∀ c ∈ text.toList, isWrapping c = true) ∧
    (read text ≠ [] → (read text).length = 1 + text.toList.count ',' ∧
      ∀ i, (read text)[i]? = (text.toList.splitOn ',')[i]?.map fun piece =>
        readNumber (Text.unwrapped isWrapping (text.toList.count ',') i piece)) ∧
    ∀ piece : List Char,
      ((∀ c ∈ piece, Text.isBlank c = true) → readNumber piece = 0) ∧
      ((¬ ∀ c ∈ piece, Text.isBlank c = true) →
        (∀ x, Decimal.readFloat? (Text.trim Text.isBlank piece) = some x → readNumber piece = x) ∧
        (Decimal.readFloat? (α := Float) (Text.trim Text.isBlank piece) = none →
          (readNumber piece).isNaN = true)) := by
  refine ⟨fun front back => read_wrapped, read_eq_nil_iff text, fun some => ?_, fun piece =>
    ⟨readNumber_blank, fun shown => ⟨fun x spelled => ?_, fun unspelled => ?_⟩⟩⟩
  · have shown := mt (read_eq_nil_iff text).mpr some
    rw [read_eq_map shown, Text.splitOn_trim rfl]
    refine ⟨?_, fun i => ?_⟩
    · rw [List.length_map, List.length_mapIdx, Text.length_splitOn]
    · rw [List.getElem?_map, List.getElem?_mapIdx, Option.map_map]
      rfl
  · rw [readNumber_of_not_blank shown, spelled, Option.getD_some]
  · rw [readNumber_of_not_blank shown, unspelled, Option.getD_none, isNaN_notANumber]

/-- Brackets of all kinds around a number with a point, a negative one with an exponent, a number in
brackets of its own, and a blank. -/
theorem read_of_four_pieces :
    let text := "12.5,-3e2,[1], "
    let wrapped := "([" ++ text ++ " \x7d"
    read wrapped = read text ∧ (read text).length = 4 ∧ (read text)[0]? = some (12.5 : Float) ∧
      (read text)[1]? = some (-300 : Float) ∧ ((read text)[2]?.map Float.isNaN) = some true ∧
      (read text)[3]? = some 0 := by
  intro text wrapped
  obtain ⟨around, empty, pieces, single⟩ := read_by_pieces text
  have cut : text.toList.splitOn ',' =
      ["12.5".toList, "-3e2".toList, "[1]".toList, " ".toList] := by decide
  have count : text.toList.count ',' = 3 := by decide
  have shown : ¬ ∀ c ∈ text.toList, isWrapping c = true := fun all =>
    absurd (all '1' (by decide)) (by decide)
  obtain ⟨length, component⟩ := pieces (mt empty.mp shown)
  rw [count] at length component
  simp only [cut] at component
  have first : Text.unwrapped isWrapping 3 0 "12.5".toList = "12.5".toList := by decide
  have second : Text.unwrapped isWrapping 3 1 "-3e2".toList = "-3e2".toList := by decide
  have third : Text.unwrapped isWrapping 3 2 "[1]".toList = "[1]".toList := by decide
  have unblank {piece : List Char} (digit : Char) (member : digit ∈ piece)
      (visible : Text.isBlank digit = false) : ¬ ∀ c ∈ piece, Text.isBlank c = true := fun all =>
    absurd (all digit member) (visible ▸ Bool.false_ne_true)
  refine ⟨around "([" " \x7d" (List.all_eq_true.mp (by decide)) (List.all_eq_true.mp (by decide)),
    length, ?_, ?_, ?_, ?_⟩
  · rw [component 0]
    have spelled := ((single "12.5".toList).2 (unblank '5' (by decide) (by decide))).1 12.5
    exact congrArg some (first ▸ spelled (by decide +kernel))
  · rw [component 1]
    have spelled := ((single "-3e2".toList).2 (unblank '3' (by decide) (by decide))).1 (-300)
    exact congrArg some (second ▸ spelled (by decide +kernel))
  · rw [component 2]
    have unspelled := ((single "[1]".toList).2 (unblank '1' (by decide) (by decide))).2
    exact congrArg some (third ▸ unspelled (by decide))
  · rw [component 3]
    have blank := (single (Text.unwrapped isWrapping 3 3 " ".toList)).1
    exact congrArg some (blank (List.all_eq_true.mp (by decide)))

end StoryMarkers.Position
