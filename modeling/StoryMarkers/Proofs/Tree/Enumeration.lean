import StoryMarkers.Proofs.Tree.Positions
import StoryMarkers.Proofs.Tree.WellAddressed

set_option autoImplicit false

namespace StoryMarkers

/-- A path stands before all that it is the beginning of. -/
theorem Slot.path_eq_of_prefix {slot later : Slot} (before : slot < later)
    (inside : later.path <+: slot.path) : later.path = slot.path := by
  rcases Slot.lt_iff.mp before with earlier | ⟨same, -⟩
  · exact absurd earlier inside.le
  · exact same.symm

namespace Tree

variable {tree : Tree} {uri : String} {slot : Slot} {p : Property}

/-- The list has what stands in the slots, in the order of the slots. -/
theorem map_get?_positioned (tree : Tree) :
    (tree.positioned.map Prod.fst).map tree.get? = tree.allProperties.map some := by
  rw [← map_snd_positioned, List.map_map, List.map_map]
  apply List.map_congr_left
  rintro ⟨slot, p⟩ member
  exact mem_positioned_iff.mp member

/-- The slots are the places in the lists of owners, at any depth. -/
theorem mem_slots_iff : slot ∈ tree.positioned.map Prod.fst ↔
    ∃ owner, Owner.below? slot.path tree.root = some owner ∧
      slot.index < owner.properties.length := by
  simp only [List.mem_map, Prod.exists, exists_and_right, exists_eq_right, mem_positioned_iff,
    get?_eq, Option.bind_eq_some_iff]
  constructor
  · rintro ⟨p, owner, reached, present⟩
    exact ⟨owner, reached, (List.getElem?_eq_some_iff.mp present).1⟩
  · rintro ⟨owner, reached, inside⟩
    exact ⟨owner.properties[slot.index], owner, reached, List.getElem?_eq_getElem inside⟩

theorem WellAddressed.find?_eq_some_iff_mem (well : tree.WellAddressed) :
    tree.find? uri = some p ↔ p ∈ tree.allProperties ∧ p.uri = uri := by
  constructor
  · exact fun found => ⟨mem_allProperties_of_find? found, well.uri_of_find? found⟩
  · rintro ⟨member, rfl⟩
    exact well.find?_of_mem member

theorem WellAddressed.slot?_eq_some_iff (well : tree.WellAddressed) :
    tree.slot? uri = some slot ↔ ∃ p, tree.get? slot = some p ∧ p.uri = uri := by
  constructor
  · intro found
    obtain ⟨p, present, -⟩ := get?_of_slot? found
    exact ⟨p, present, well.uri_of_find? (find?_eq_some_iff.mpr ⟨slot, found, present⟩)⟩
  · rintro ⟨p, present, rfl⟩
    exact well.slot?_of_get? present

/-- The list of all properties goes through the places in the lists of the tree and of all owners
in it, at any depth: through each of them once and in the order of the tree, so that nothing comes
after what stands further down inside the same owner. In a tree where the names of owners have no
dots and every address says where its property stands, and stands once, an address leads to a
property exactly if the list has one with this address, and then to that one, in its place; siblings
may share a name. -/
theorem lookup_agrees_with_listing (tree : Tree) :
    (∃ slots : List Slot, slots.map tree.get? = tree.allProperties.map some ∧
      (∀ slot, slot ∈ slots ↔ ∃ owner, Owner.below? slot.path tree.root = some owner ∧
        slot.index < owner.properties.length) ∧
      slots.Nodup ∧ slots.Pairwise (· < ·) ∧
      slots.Pairwise fun earlier later =>
        later.path <+: earlier.path → later.path = earlier.path) ∧
    (tree.WellAddressed → ∀ uri,
      (∀ p, tree.find? uri = some p ↔ p ∈ tree.allProperties ∧ p.uri = uri) ∧
      ∀ slot, tree.slot? uri = some slot ↔ ∃ p, tree.get? slot = some p ∧ p.uri = uri) := by
  have ordered : (tree.positioned.map Prod.fst).Pairwise (· < ·) := by
    rw [List.pairwise_map]
    exact tree.pairwise_positioned
  constructor
  · exact ⟨_, tree.map_get?_positioned, fun _ => mem_slots_iff, tree.nodup_slots, ordered,
      ordered.imp Slot.path_eq_of_prefix⟩
  · exact fun well uri => ⟨fun _ => well.find?_eq_some_iff_mem, fun _ => well.slot?_eq_some_iff⟩

/-- Two moons side by side, one with a size and one with a mass. -/
theorem mass_of_second_moon :
    let mass : Property := { uri := "Scene.Moon.Mass", value := "7" }
    let tree : Tree := {
      subowners := [
        { identifier := "Scene"
          subowners := [
            { identifier := "Moon", properties := [{ uri := "Scene.Moon.Size", value := "2" }] },
            { identifier := "Moon", properties := [mass] }] }]
      properties := [{ uri := "Moon", value := "0" }] }
    tree.WellAddressed ∧ tree.find? "Scene.Moon.Mass" = some mass ∧
      tree.slot? "Scene.Moon.Mass" = some ⟨[0, 1], 0⟩ := by
  intro mass tree
  have well : tree.WellAddressed := by decide
  obtain ⟨find, slot⟩ := (lookup_agrees_with_listing tree).2 well "Scene.Moon.Mass"
  exact ⟨well, (find mass).mpr (by decide), (slot _).mpr ⟨mass, by decide⟩⟩

end Tree

end StoryMarkers
