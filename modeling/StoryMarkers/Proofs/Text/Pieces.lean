import Mathlib.Data.List.DropRight
import StoryMarkers.Text.Blank

set_option autoImplicit false

namespace StoryMarkers.Text

variable {drop : Char → Bool} {sep : Char} {text : List Char}

theorem trim_eq_nil_iff : trim drop text = [] ↔ ∀ c ∈ text, drop c = true := by
  change (text.dropWhile drop).rdropWhile drop = [] ↔ _
  rw [List.rdropWhile_eq_nil_iff]
  constructor
  · intro all c inside
    by_contra kept
    cases first : text.dropWhile drop with
    | nil => exact kept (List.dropWhile_eq_nil_iff.mp first c inside)
    | cons d rest =>
        have stops := List.head_dropWhile_not drop (first ▸ List.cons_ne_nil d rest)
        simp only [first, List.head_cons] at stops
        rw [all d (first ▸ List.mem_cons_self)] at stops
        cases stops
  · intro all c inside
    exact all c (List.dropWhile_subset drop inside)

theorem trim_append_left {front : List Char} (all : ∀ c ∈ front, drop c = true) :
    trim drop (front ++ text) = trim drop text := by
  rw [trim, List.dropWhile_append_of_pos all]
  rfl

theorem trim_append_right {back : List Char} (all : ∀ c ∈ back, drop c = true) :
    trim drop (text ++ back) = trim drop text := by
  by_cases blank : ∀ c ∈ text, drop c = true
  · rw [trim_eq_nil_iff.mpr blank, trim_eq_nil_iff]
    exact List.forall_mem_append.mpr ⟨blank, all⟩
  · have open_front : (text.dropWhile drop).isEmpty = false := by
      simpa [List.dropWhile_eq_nil_iff] using blank
    rw [trim, List.dropWhile_append, if_neg (by simp [open_front]), List.reverse_append,
      List.dropWhile_append_of_pos (by simpa using all)]
    rfl

theorem not_mem_of_mem_splitOn (sep : Char) (text : List Char) :
    ∀ piece ∈ text.splitOn sep, sep ∉ piece := by
  induction text with
  | nil => simp
  | cons c rest ih =>
      rw [List.splitOn_cons_eq_if_modifyHead]
      split
      · simpa using ih
      · rename_i other
        obtain ⟨first, pieces, cut⟩ := List.exists_cons_of_ne_nil (List.splitOn_ne_nil sep rest)
        rw [cut] at ih ⊢
        have apart : sep ≠ c := by
          rintro rfl
          exact other (beq_self_eq_true _)
        simp only [List.mem_cons, forall_eq_or_imp] at ih
        simpa [apart] using ih

/-- One piece more than there are cuts. -/
theorem length_splitOn (sep : Char) (text : List Char) :
    (text.splitOn sep).length = 1 + text.count sep := by
  induction text with
  | nil => rfl
  | cons c rest ih =>
      rw [List.splitOn_cons_eq_if_modifyHead, List.count_cons]
      split
      · rw [List.length_cons, ih, Nat.add_assoc]
      · rw [List.length_modifyHead, ih, Nat.add_zero]

theorem dropWhile_append_cons (kept : drop sep = false) (front back : List Char) :
    (front ++ sep :: back).dropWhile drop = front.dropWhile drop ++ sep :: back := by
  rw [List.dropWhile_append, List.dropWhile_cons_of_neg (by simp [kept])]
  split
  · rename_i empty
    rw [List.isEmpty_iff.mp empty, List.nil_append]
  · rfl

theorem rdropWhile_append_cons (kept : drop sep = false) (front back : List Char) :
    (front ++ sep :: back).rdropWhile drop = front ++ sep :: back.rdropWhile drop := by
  have swapped : (front ++ sep :: back).reverse = back.reverse ++ sep :: front.reverse := by simp
  rw [List.rdropWhile, swapped, dropWhile_append_cons kept]
  simp [List.rdropWhile]

theorem dropWhile_intercalate (kept : drop sep = false) (first : List Char)
    (back : List (List Char)) : ([sep].intercalate (first :: back)).dropWhile drop =
      [sep].intercalate (first.dropWhile drop :: back) := by
  cases back with
  | nil => rw [List.intercalate_singleton, List.intercalate_singleton]
  | cons piece back =>
      rw [List.intercalate_cons_cons, List.intercalate_cons_cons, List.append_assoc,
        List.append_assoc]
      exact dropWhile_append_cons kept _ _

theorem rdropWhile_intercalate (kept : drop sep = false) (front : List (List Char))
    (last : List Char) : ([sep].intercalate (front ++ [last])).rdropWhile drop =
      [sep].intercalate (front ++ [last.rdropWhile drop]) := by
  induction front with
  | nil => simp
  | cons piece front ih =>
      have spelled (back : List Char) : [sep].intercalate (piece :: front ++ [back]) =
          piece ++ sep :: [sep].intercalate (front ++ [back]) := by
        rw [List.cons_append, List.intercalate_cons_of_ne_nil (by simp), List.append_assoc]
        rfl
      rw [spelled, spelled, rdropWhile_append_cons kept, ih]

theorem splitOn_dropWhile (kept : drop sep = false) {first : List Char} {back : List (List Char)}
    (cut : text.splitOn sep = first :: back) :
    (text.dropWhile drop).splitOn sep = first.dropWhile drop :: back := by
  have free := not_mem_of_mem_splitOn sep text
  rw [cut, List.forall_mem_cons] at free
  have spelled := dropWhile_intercalate kept first back
  rw [← cut, List.intercalate_splitOn] at spelled
  rw [spelled]
  refine List.splitOn_intercalate sep (List.forall_mem_cons.mpr ⟨?_, free.2⟩) (by simp)
  exact fun inside => free.1 (List.dropWhile_subset drop inside)

theorem splitOn_rdropWhile (kept : drop sep = false) {front : List (List Char)} {last : List Char}
    (cut : text.splitOn sep = front ++ [last]) :
    (text.rdropWhile drop).splitOn sep = front ++ [last.rdropWhile drop] := by
  have free := not_mem_of_mem_splitOn sep text
  rw [cut, List.forall_mem_append] at free
  have spelled := rdropWhile_intercalate kept front last
  rw [← cut, List.intercalate_splitOn] at spelled
  rw [spelled]
  refine List.splitOn_intercalate sep (List.forall_mem_append.mpr ⟨free.1, ?_⟩) (by simp)
  rw [List.forall_mem_singleton] at free ⊢
  exact fun inside => free.2 ((List.rdropWhile_prefix drop last).subset inside)

/-- A piece without what is dropped at the ends of the text: in front of the first piece, and behind
the last. -/
def unwrapped (drop : Char → Bool) (last i : Nat) (piece : List Char) : List Char :=
  let opened := if i = 0 then piece.dropWhile drop else piece
  if i = last then opened.rdropWhile drop else opened

/-- The pieces of a trimmed text. -/
theorem splitOn_trim (kept : drop sep = false) (text : List Char) :
    (trim drop text).splitOn sep =
      (text.splitOn sep).mapIdx (unwrapped drop (text.count sep)) := by
  have count := length_splitOn sep text
  obtain ⟨first, back, cut⟩ := List.exists_cons_of_ne_nil (List.splitOn_ne_nil sep text)
  have opened := splitOn_dropWhile kept cut
  rw [cut, List.length_cons] at count
  rw [cut]
  rcases List.eq_nil_or_concat' back with rfl | ⟨middle, last, rfl⟩
  · have single : text.count sep = 0 := by
      rw [List.length_nil] at count
      omega
    have closed : (trim drop text).splitOn sep =
        [] ++ [(first.dropWhile drop).rdropWhile drop] := splitOn_rdropWhile kept opened
    rw [closed, single]
    rfl
  · have final : text.count sep = middle.length + 1 := by
      rw [List.length_append, List.length_singleton] at count
      omega
    have closed : (trim drop text).splitOn sep =
        (first.dropWhile drop :: middle) ++ [last.rdropWhile drop] :=
      splitOn_rdropWhile kept opened
    have inner : middle.mapIdx (fun i => unwrapped drop (middle.length + 1) (i + 1)) = middle := by
      refine List.mapIdx_eq_iff.mpr fun i => ?_
      by_cases inside : i < middle.length
      · have between : i ≠ middle.length := by omega
        simp [List.getElem?_eq_getElem inside, unwrapped, between]
      · simp [List.getElem?_eq_none (Nat.le_of_not_lt inside)]
    rw [closed, final, List.mapIdx_cons, List.mapIdx_concat, inner]
    simp [unwrapped]

end StoryMarkers.Text
