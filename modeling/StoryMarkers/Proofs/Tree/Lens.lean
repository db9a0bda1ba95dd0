import StoryMarkers.Proofs.Tree.Commuting
import StoryMarkers.Proofs.Tree.FirstMatch
import StoryMarkers.Proofs.Tree.Positions

set_option autoImplicit false

namespace StoryMarkers.Tree

variable {tree : Tree} {uri : String} {slot : Slot} {p q : Property}

/-- Where an owner is found is a matter of the names of owners alone. -/
theorem ownerPath?_map (f : Property → Property) (tree : Tree) (uri : String) :
    (tree.map f).ownerPath? uri = tree.ownerPath? uri := by
  have first := ownerPath?_isFirst (tree.map f) uri
  simp only [root_map, Owner.namesTo?_map] at first
  have first' := ownerPath?_isFirst tree uri
  cases found : tree.ownerPath? uri with
  | none => exact first.eq_none_iff.mpr (first'.eq_none_iff.mp found)
  | some path => exact (first.eq_some_iff path).mpr ((first'.eq_some_iff path).mp found)

theorem owner?_map (f : Property → Property) (tree : Tree) (uri : String) :
    (tree.map f).owner? uri = (tree.owner? uri).map (Owner.map f) := by
  rw [owner?_eq, owner?_eq, ownerPath?_map, root_map]
  cases tree.ownerPath? uri with
  | none => rfl
  | some path => exact Owner.below?_map f path tree.root

theorem update_of_slot? (found : tree.slot? uri = some slot) (change : Property → Property) :
    tree.update uri change = tree.modify slot change := by
  rw [update, found]

theorem allProperties_update {index : Nat} (found : tree.slot? uri = some slot)
    (here : tree.positioned[index]? = some (slot, p)) (change : Property → Property) :
    (tree.update uri change).allProperties = tree.allProperties.set index (change p) := by
  rw [update_of_slot? found, ← map_snd_positioned, positioned_modify here, List.map_set,
    map_snd_positioned]

/-- What an address leads to has its last name. -/
theorem name_of_find? (found : tree.find? uri = some p) : Uri.name p.uri = Uri.name uri := by
  obtain ⟨slot, reached, present⟩ := find?_eq_some_iff.mp found
  obtain ⟨p', present', last⟩ := get?_of_slot? reached
  rw [present, Option.some.injEq] at present'
  rw [present', last]

/-- What is written under the last name of an address leaves every address where it leads. -/
theorem slot?_overwrite (named : Uri.name q.uri = Uri.name uri) (other : String) :
    (tree.update uri fun _ => q).slot? other = tree.slot? other :=
  slot?_update_of_find? (fun _ found => named.trans (name_of_find? found).symm) other

theorem find?_overwrite (named : Uri.name q.uri = Uri.name uri) (other : String) :
    (tree.update uri fun _ => q).find? other =
      if other = uri then (tree.find? other).map fun _ => q else tree.find? other :=
  find?_update_of_find? (fun _ found => named.trans (name_of_find? found).symm) other

/-- A function that cannot tell the new property from the old one sees the same tree. -/
theorem map_overwrite {f : Property → Property} (found : tree.slot? uri = some slot)
    (present : tree.get? slot = some p) (blind : f q = f p) :
    (tree.update uri fun _ => q).map f = tree.map f := by
  rw [update_of_slot? found]
  apply map_modify
  intro p' present'
  rw [present, Option.some.injEq] at present'
  rw [← present', blind]

/-- To write what is there already changes nothing. -/
theorem overwrite_self (found : tree.slot? uri = some slot) (present : tree.get? slot = some p) :
    (tree.update uri fun _ => p) = tree := by
  apply ext_get? (map_overwrite (f := id) found present rfl)
  intro other
  rw [get?_update]
  split
  · rename_i here
    rw [found, Option.some.injEq] at here
    rw [← here, present, Option.map_some]
  · rfl

/-- Of two writes in one place the second counts. -/
theorem overwrite_overwrite (named : Uri.name q.uri = Uri.name uri) (r : Property) :
    ((tree.update uri fun _ => q).update uri fun _ => r) = tree.update uri fun _ => r := by
  have blank : ∀ (s : Property) (tree : Tree),
      (tree.update uri fun _ => s).map (fun _ => r) = tree.map fun _ => r := by
    intro s tree
    apply map_update
    intro _
    rfl
  have shape : ((tree.update uri fun _ => q).update uri fun _ => r).map (fun _ => r) =
      (tree.update uri fun _ => r).map fun _ => r := by
    rw [blank, blank, blank]
  apply ext_get? shape
  intro other
  simp only [get?_update, slot?_overwrite named]
  split
  · rw [Option.map_map]
    rfl
  · rfl

/-- Reading and writing by address form a lens, whatever the tree looks like. There is a place to
write exactly if there is something to read, and it is the same slot. A property that is put there
under the last name of the address is what the address leads to afterwards. All addresses, of
properties and of owners, lead where they led before, and to the same as long as they are not the
address written to; nothing outside the slot changes; and of the list of all properties one element
is replaced, in the place of the slot. -/
theorem lookup_and_update_form_lens (tree : Tree) (uri : String) :
    (tree.slot? uri).isSome = (tree.find? uri).isSome ∧
    tree.positioned.map Prod.snd = tree.allProperties ∧
    ∀ slot, tree.slot? uri = some slot →
      ∃ p index, tree.find? uri = some p ∧ tree.positioned[index]? = some (slot, p) ∧
        (∀ change, (tree.update uri change).get? slot = some (change p)) ∧
        (tree.update uri fun _ => p) = tree ∧
        ∀ q, Uri.name q.uri = Uri.name uri →
          let after := tree.update uri fun _ => q
          after.find? uri = some q ∧
          (∀ r, (after.update uri fun _ => r) = tree.update uri fun _ => r) ∧
          (∀ other, after.slot? other = tree.slot? other ∧
            after.ownerPath? other = tree.ownerPath? other) ∧
          (∀ other, other ≠ uri → after.find? other = tree.find? other) ∧
          (∀ other, other ≠ slot → after.get? other = tree.get? other) ∧
          (∀ f : Property → Property, f q = f p → after.map f = tree.map f ∧
            ∀ other, (after.owner? other).map (Owner.map f) =
              (tree.owner? other).map (Owner.map f)) ∧
          after.allProperties = tree.allProperties.set index q := by
  refine ⟨(tree.isSome_find? uri).symm, tree.map_snd_positioned, ?_⟩
  intro slot found
  obtain ⟨p, present, -⟩ := get?_of_slot? found
  obtain ⟨index, here⟩ := exists_position present
  have lookup : tree.find? uri = some p := find?_eq_some_iff.mpr ⟨slot, found, present⟩
  refine ⟨p, index, lookup, here, ?_, overwrite_self found present, ?_⟩
  · intro change
    rw [get?_update, if_pos found, present, Option.map_some]
  · intro q named after
    have blank : after.map (fun _ => q) = tree.map fun _ => q :=
      map_overwrite found present rfl
    refine ⟨?_, overwrite_overwrite named, ?_, ?_, ?_, ?_, allProperties_update found here _⟩
    · rw [find?_overwrite named, if_pos rfl, lookup, Option.map_some]
    · intro other
      refine ⟨slot?_overwrite named other, ?_⟩
      rw [← ownerPath?_map (fun _ => q) after, blank, ownerPath?_map]
    · intro other apart
      rw [find?_overwrite named, if_neg apart]
    · intro other apart
      have elsewhere : tree.slot? uri ≠ some other := by
        rw [found]
        exact fun same => apart (Option.some.inj same).symm
      rw [get?_update, if_neg elsewhere]
    · intro f blind
      have same := map_overwrite found present blind
      refine ⟨same, ?_⟩
      intro other
      rw [← owner?_map, ← owner?_map, same]

/-- Two scenes with a moon each. The size is that of the second moon, in the first of two properties
whose addresses end in the name. -/
def nestedMoons : Tree where
  subowners := [
    { identifier := "Scene"
      subowners := [
        { identifier := "Moon", properties := [{ uri := "Scene.Moon.Mass", value := "7" }] }] },
    { identifier := "Scene"
      subowners := [
        { identifier := "Moon"
          properties := [
            { uri := "Moon.Size", value := "2" },
            { uri := "Scene.Moon.Size", value := "3" }] }] }]
  properties := [{ uri := "Size", value := "0" }]

theorem overwrite_nested_moon :
    let uri := "Scene.Moon.Size"
    let q : Property := { uri := "Mars.Size", value := "9", quoted := false, listeners := 4 }
    let after := nestedMoons.update uri fun _ => q
    nestedMoons.slot? uri = some ⟨[1, 0], 0⟩ ∧ Uri.name q.uri = Uri.name uri ∧
      after.find? uri = some q ∧
      after.find? "Scene.Moon.Mass" = nestedMoons.find? "Scene.Moon.Mass" ∧
      after.find? "Size" = nestedMoons.find? "Size" ∧
      after.allProperties.map (·.value) = ["0", "7", "9", "3"] := by
  intro uri q after
  have found : nestedMoons.slot? uri = some ⟨[1, 0], 0⟩ := by decide
  have named : Uri.name q.uri = Uri.name uri := by decide
  obtain ⟨p, index, -, -, -, -, write⟩ :=
    (lookup_and_update_form_lens nestedMoons uri).2.2 ⟨[1, 0], 0⟩ found
  obtain ⟨read, -, -, others, -⟩ := write q named
  exact ⟨found, named, read, others "Scene.Moon.Mass" (by decide), others "Size" (by decide),
    by decide⟩

end StoryMarkers.Tree
