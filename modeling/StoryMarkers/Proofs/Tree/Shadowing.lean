import Mathlib.Data.List.Nodup
import StoryMarkers.Proofs.Tree.Writing

set_option autoImplicit false

namespace StoryMarkers

namespace Property

variable {uri : String} {p : Property} {own : List Property}

/-- The property found by its last name has the whole address exactly if some property of the list
has it, and none listed before has the name. -/
theorem uri_eq_iff_of_find? (first : own.find? (·.answersTo (Uri.name uri)) = some p) :
    p.uri = uri ↔ uri ∈ own.map (·.uri) ∧
      ∀ q ∈ own.takeWhile (·.uri ≠ uri), Uri.name q.uri ≠ Uri.name uri := by
  induction own with
  | nil => cases first
  | cons q rest ih =>
      by_cases whole : q.uri = uri
      · rw [List.find?_cons_of_pos (by simp [answersTo, whole])] at first
        cases first
        simp [whole]
      · have ahead : (q :: rest).takeWhile (·.uri ≠ uri) = q :: rest.takeWhile (·.uri ≠ uri) :=
          List.takeWhile_cons_of_pos (by simpa using whole)
        by_cases fits : Uri.name q.uri = Uri.name uri
        · rw [List.find?_cons_of_pos (by simpa [answersTo] using fits)] at first
          cases first
          rw [ahead]
          simp [whole, fits]
        · rw [List.find?_cons_of_neg (by simpa [answersTo] using fits)] at first
          rw [ih first, ahead]
          simp [fits, Ne.symm whole]

/-- Where last names are told apart the whole address is found wherever it is listed. -/
theorem uri_eq_of_nodup (distinct : (own.map fun q => Uri.name q.uri).Nodup)
    (listed : uri ∈ own.map (·.uri)) (first : own.find? (·.answersTo (Uri.name uri)) = some p) :
    p.uri = uri := by
  obtain ⟨q, member, rfl⟩ := List.mem_map.mp listed
  have fits : Uri.name p.uri = Uri.name q.uri := by
    simpa [answersTo] using List.find?_some first
  have same : p = q :=
    List.inj_on_of_nodup_map distinct (List.mem_of_find?_eq_some first) member fits
  rw [same]

end Property

namespace Tree

variable {tree : Tree} {uri : String} {slot : Slot}

/-- A slot that an address leads to is that of the first property, in the owner at the end of its
path, that has the last name. -/
theorem findIdx?_of_slot? (found : tree.slot? uri = some slot) :
    ∃ own, Owner.propertiesAt? slot.path tree.root = some own ∧
      own.findIdx? (·.answersTo (Uri.name uri)) = some slot.index := by
  rw [slot?_eq] at found
  obtain ⟨path, -, reached⟩ := Option.bind_eq_some_iff.mp found
  obtain ⟨owner, below, positioned⟩ := Option.bind_eq_some_iff.mp reached
  obtain ⟨index, first, rfl⟩ := Option.map_eq_some_iff.mp positioned
  refine ⟨owner.properties, ?_, first⟩
  rw [Owner.propertiesAt?, below, Option.map_some]

theorem propertiesAt?_update (found : tree.slot? uri = some slot)
    (change : Property → Property) :
    Owner.propertiesAt? slot.path (tree.update uri change).root =
      (Owner.propertiesAt? slot.path tree.root).map (·.modify slot.index change) := by
  rw [update, found]
  change Owner.propertiesAt? slot.path (tree.modify slot change).root = _
  rw [root_modify, Owner.propertiesAt?_modifyBelow, if_pos rfl]

/-- A whole address does not win over a last name. What an address leads to, and what is written
through it, is the first property with its last name in the list of the owner that its other names
lead to, or of the tree itself. A property with the whole address is found exactly if it is listed
and no property of the name is listed before it, as it always is where the last names of the list
are told apart. -/
theorem whole_address_wins_iff (tree : Tree) (uri : String) (slot : Slot)
    (found : tree.slot? uri = some slot) :
    ∃ before p after,
      let own := before ++ p :: after
      Owner.namesTo? slot.path tree.root = some (Uri.owners uri) ∧
      Owner.propertiesAt? slot.path tree.root = some own ∧
      slot.index = before.length ∧
      tree.find? uri = some p ∧
      Uri.name p.uri = Uri.name uri ∧
      (∀ q ∈ before, Uri.name q.uri ≠ Uri.name uri) ∧
      (∀ change, Owner.propertiesAt? slot.path (tree.update uri change).root =
        some (before ++ change p :: after)) ∧
      (p.uri = uri ↔ uri ∈ own.map (·.uri) ∧
        ∀ q ∈ own.takeWhile (·.uri ≠ uri), Uri.name q.uri ≠ Uri.name uri) ∧
      ((own.map fun q => Uri.name q.uri).Nodup → uri ∈ own.map (·.uri) → p.uri = uri) := by
  obtain ⟨own, listed, first⟩ := findIdx?_of_slot? found
  obtain ⟨inside, fits, earlier⟩ := List.findIdx?_eq_some_iff_getElem.mp first
  have names := (spelling?_eq_some_iff.mp (spelling?_of_slot? found)).1
  have taken : own.find? (·.answersTo (Uri.name uri)) = some own[slot.index] := by
    rw [List.find?_eq_bind_findIdx?_getElem?, first, Option.bind_some,
      List.getElem?_eq_getElem inside]
  have lookup : tree.find? uri = some own[slot.index] := by
    rw [find?, found, Option.bind_some, get?_eq_propertiesAt?, listed, Option.bind_some,
      List.getElem?_eq_getElem inside]
  have split : own.take slot.index ++ own[slot.index] :: own.drop (slot.index + 1) = own := by
    rw [List.getElem_cons_drop, List.take_append_drop]
  refine ⟨own.take slot.index, own[slot.index], own.drop (slot.index + 1), ?_⟩
  rw [split]
  refine ⟨names, listed, ?_, lookup, of_decide_eq_true fits, ?_, ?_,
    Property.uri_eq_iff_of_find? taken, fun distinct member =>
      Property.uri_eq_of_nodup distinct member taken⟩
  · rw [List.length_take, Nat.min_eq_left (Nat.le_of_lt inside)]
  · intro q ahead
    obtain ⟨j, before, rfl⟩ := List.mem_take_iff_getElem.mp ahead
    simpa [Property.answersTo] using earlier j (by omega)
  · intro change
    rw [propertiesAt?_update found, listed, Option.map_some,
      List.modify_eq_take_cons_drop inside]

/-- A moon whose size is listed under its plain name first, and under its whole address behind. -/
def plainNameFirst : Tree where
  subowners := [
    { identifier := "Moon"
      properties := [{ uri := "Size", value := "1" }, { uri := "Moon.Size", value := "2" }] }]

/-- The whole address is listed, and still the plain name is found. -/
theorem plain_name_shadows_whole_address :
    ¬ ∀ uri slot own p, plainNameFirst.slot? uri = some slot →
      Owner.propertiesAt? slot.path plainNameFirst.root = some own →
      uri ∈ own.map (·.uri) → plainNameFirst.find? uri = some p → p.uri = uri := by
  intro wins
  have own : Owner.propertiesAt? [0] plainNameFirst.root =
      some [{ uri := "Size", value := "1" }, { uri := "Moon.Size", value := "2" }] := rfl
  have whole := wins "Moon.Size" ⟨[0], 0⟩ _ { uri := "Size", value := "1" } (by decide) own
    (by decide) (by decide)
  exact absurd whole (by decide)

/-- Behind a mass the whole address of the size is the first of its last name, and is found. -/
theorem whole_address_behind_mass :
    let tree : Tree := {
      subowners := [
        { identifier := "Moon"
          properties := [
            { uri := "Mass", value := "1" }, { uri := "Moon.Size", value := "2" },
            { uri := "Size", value := "3" }] }] }
    tree.slot? "Moon.Size" = some ⟨[0], 1⟩ ∧
      ∃ p, tree.find? "Moon.Size" = some p ∧ p.uri = "Moon.Size" := by
  intro tree
  have found : tree.slot? "Moon.Size" = some ⟨[0], 1⟩ := by decide
  obtain ⟨before, p, after, -, listed, -, lookup, -, -, -, exactly, -⟩ :=
    whole_address_wins_iff tree "Moon.Size" ⟨[0], 1⟩ found
  rw [← Option.some.inj listed] at exactly
  exact ⟨found, p, lookup, exactly.mpr (by decide)⟩

end Tree

end StoryMarkers
