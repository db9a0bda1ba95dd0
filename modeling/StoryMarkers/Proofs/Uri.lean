import Mathlib.Data.List.Basic
import StoryMarkers.Proofs.Text.Pieces
import StoryMarkers.Uri

set_option autoImplicit false

namespace StoryMarkers.Uri

/-- A text that no dot cuts in two. -/
def DotFree (text : String) : Prop := '.' ∉ text.toList

instance (text : String) : Decidable (DotFree text) :=
  inferInstanceAs (Decidable ('.' ∉ text.toList))

/-- The address that spells the given names. -/
def join (names : List String) : String := ".".intercalate names

theorem segments_ne_nil (uri : String) : segments uri ≠ [] := by
  simp [segments]

theorem join_segments (uri : String) : join (segments uri) = uri := by
  apply String.toList_inj.mp
  have chars : (String.toList ∘ String.ofList) = id := by
    funext text
    exact String.toList_ofList
  rw [join, String.toList_intercalate, segments, List.map_map, chars, List.map_id]
  exact List.intercalate_splitOn '.'

theorem segments_injective : Function.Injective segments :=
  Function.LeftInverse.injective join_segments

theorem dotFree_of_mem_segments {uri text : String} (member : text ∈ segments uri) :
    DotFree text := by
  rw [segments, List.mem_map] at member
  obtain ⟨piece, cut, rfl⟩ := member
  rw [DotFree, String.toList_ofList]
  exact Text.not_mem_of_mem_splitOn '.' uri.toList piece cut

theorem segments_of_dotFree {text : String} (free : DotFree text) : segments text = [text] := by
  rw [segments, List.splitOn_eq_singleton free]
  simp

@[simp] theorem segments_child (uri text : String) :
    segments (child uri text) = segments uri ++ segments text := by
  have dot : ".".toList = ['.'] := rfl
  simp only [segments, child, String.toList_append, dot, List.append_assoc,
    List.singleton_append, List.splitOn_append_cons_self, List.map_append]

theorem segments_join {names : List String} (some : names ≠ [])
    (free : ∀ name ∈ names, DotFree name) : segments (join names) = names := by
  have cut : (['.'].intercalate (names.map String.toList)).splitOn '.' =
      names.map String.toList := by
    apply List.splitOn_intercalate
    · simpa [DotFree] using free
    · simpa using some
  have chars : (String.ofList ∘ String.toList) = id := by
    funext text
    exact String.ofList_toList
  have dot : ".".toList = ['.'] := rfl
  rw [segments, join, String.toList_intercalate, dot, cut, List.map_map, chars, List.map_id]

theorem owners_append_name (uri : String) : owners uri ++ [name uri] = segments uri := by
  have last : name uri = (segments uri).getLast (segments_ne_nil uri) := by
    rw [name, List.getLastD_eq_getLast?, List.getLast?_eq_some_getLast (segments_ne_nil uri)]
    rfl
  rw [owners, last, List.dropLast_concat_getLast]

theorem getLast?_segments (uri : String) : (segments uri).getLast? = some (name uri) := by
  rw [← owners_append_name, List.getLast?_concat]

theorem dotFree_name (uri : String) : DotFree (name uri) := by
  have member : name uri ∈ segments uri := by
    rw [← owners_append_name]
    exact List.mem_append_right _ (List.mem_singleton_self _)
  exact dotFree_of_mem_segments member

theorem eq_of_owners_of_name {left right : String} (front : owners left = owners right)
    (last : name left = name right) : left = right := by
  apply segments_injective
  rw [← owners_append_name, front, last, owners_append_name]

theorem owners_name_of_segments {uri text : String} {names : List String}
    (spelled : segments uri = names ++ [text]) : owners uri = names ∧ name uri = text := by
  rw [← owners_append_name] at spelled
  exact List.append_inj' spelled rfl |>.imp id List.singleton_inj.mp

theorem owners_child {uri text : String} (free : DotFree text) :
    owners (child uri text) = segments uri := by
  have spelled : segments (child uri text) = segments uri ++ [text] := by
    rw [segments_child, segments_of_dotFree free]
  exact (owners_name_of_segments spelled).1

theorem name_child {uri text : String} (free : DotFree text) : name (child uri text) = text := by
  have spelled : segments (child uri text) = segments uri ++ [text] := by
    rw [segments_child, segments_of_dotFree free]
  exact (owners_name_of_segments spelled).2

theorem owners_of_dotFree {text : String} (free : DotFree text) : owners text = [] := by
  have spelled : segments text = [] ++ [text] := segments_of_dotFree free
  exact (owners_name_of_segments spelled).1

theorem name_of_dotFree {text : String} (free : DotFree text) : name text = text := by
  have spelled : segments text = [] ++ [text] := segments_of_dotFree free
  exact (owners_name_of_segments spelled).2

/-- Every address is a name, or a name inside what another address leads to. -/
theorem dotFree_or_eq_child (uri : String) :
    DotFree uri ∨ ∃ front last, DotFree last ∧ uri = child front last := by
  by_cases single : owners uri = []
  · left
    have whole : uri = name uri := by
      apply eq_of_owners_of_name
      · rw [single, owners_of_dotFree (dotFree_name uri)]
      · rw [name_of_dotFree (dotFree_name uri)]
    rw [whole]
    exact dotFree_name uri
  · right
    refine ⟨join (owners uri), name uri, dotFree_name uri, ?_⟩
    have free : ∀ text ∈ owners uri, DotFree text := by
      intro text member
      exact dotFree_of_mem_segments (List.dropLast_subset _ member)
    apply eq_of_owners_of_name
    · rw [owners_child (dotFree_name uri), segments_join single free]
    · rw [name_child (dotFree_name uri)]

end StoryMarkers.Uri
