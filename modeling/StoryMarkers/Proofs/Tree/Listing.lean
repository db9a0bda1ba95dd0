import Mathlib.Data.List.Nodup
import StoryMarkers.Proofs.Tree.Mapping

set_option autoImplicit false

namespace StoryMarkers

namespace Owner

theorem propertiesOf_eq (owners : List Owner) :
    propertiesOf owners = owners.flatMap allProperties := by
  induction owners with
  | nil => rfl
  | cons owner rest ih => rw [propertiesOf, ih, List.flatMap_cons]

theorem allProperties_eq (owner : Owner) :
    owner.allProperties = owner.properties ++ owner.subowners.flatMap allProperties := by
  cases owner
  rw [allProperties, propertiesOf_eq]

theorem allProperties_map (f : Property → Property) (owner : Owner) :
    (owner.map f).allProperties = owner.allProperties.map f := by
  induction owner using inductOn with
  | step owner ih =>
      rw [allProperties_eq, allProperties_eq, map_properties, map_subowners, List.map_append,
        List.map_flatMap, List.flatMap_map]
      congr 1
      exact List.flatMap_congr ih

theorem mem_allProperties_iff {owner : Owner} {p : Property} :
    p ∈ owner.allProperties ↔ ∃ path last, below? path owner = some last ∧ p ∈ last.properties := by
  induction owner using inductOn with
  | step owner ih =>
      rw [allProperties_eq, List.mem_append, List.mem_flatMap]
      constructor
      · rintro (own | ⟨child, member, inside⟩)
        · exact ⟨[], owner, rfl, own⟩
        · obtain ⟨path, last, reached, present⟩ := (ih child member).mp inside
          obtain ⟨index, found⟩ := List.mem_iff_getElem?.mp member
          exact ⟨index :: path, last, below?_cons_eq_some_iff.mpr ⟨child, found, reached⟩, present⟩
      · rintro ⟨path, last, reached, present⟩
        cases path with
        | nil =>
            cases reached
            exact Or.inl present
        | cons index path =>
            obtain ⟨child, found, deeper⟩ := below?_cons_eq_some_iff.mp reached
            have member := List.mem_of_getElem? found
            exact Or.inr ⟨child, member, (ih child member).mpr ⟨path, last, deeper, present⟩⟩

theorem mem_allProperties_of_getElem? {owner last : Owner} {path : List Nat} {index : Nat}
    {p : Property} (reached : below? path owner = some last)
    (present : last.properties[index]? = some p) : p ∈ owner.allProperties :=
  mem_allProperties_iff.mpr ⟨path, last, reached, List.mem_of_getElem? present⟩

private theorem child_unique {α : Type} {key : Property → α} {owners : List Owner}
    (distinct : (owners.flatMap fun owner => owner.allProperties.map key).Nodup) {i j : Nat}
    {child sibling : Owner} (found : owners[i]? = some child) (found' : owners[j]? = some sibling)
    {p q : Property} (inside : p ∈ child.allProperties) (inside' : q ∈ sibling.allProperties)
    (same : key p = key q) : i = j := by
  have apart := List.pairwise_iff_getElem.mp (List.nodup_flatMap.mp distinct).2
  obtain ⟨hi, rfl⟩ := List.getElem?_eq_some_iff.mp found
  obtain ⟨hj, rfl⟩ := List.getElem?_eq_some_iff.mp found'
  rcases Nat.lt_trichotomy i j with before | equal | after
  · have left : key p ∈ owners[i].allProperties.map key := List.mem_map_of_mem inside
    have right : key p ∈ owners[j].allProperties.map key := same ▸ List.mem_map_of_mem inside'
    exact absurd right (apart i j hi hj before left)
  · exact equal
  · have left : key q ∈ owners[j].allProperties.map key := List.mem_map_of_mem inside'
    have right : key q ∈ owners[i].allProperties.map key := same ▸ List.mem_map_of_mem inside
    exact absurd right (apart j i hj hi after left)

/-- Slots are told apart by whatever tells the listed properties apart. -/
theorem slot_unique {α : Type} {key : Property → α} {owner : Owner}
    (distinct : (owner.allProperties.map key).Nodup) {path other : List Nat} {last last' : Owner}
    {index index' : Nat} {p q : Property}
    (reached : below? path owner = some last) (present : last.properties[index]? = some p)
    (reached' : below? other owner = some last') (present' : last'.properties[index']? = some q)
    (same : key p = key q) : path = other ∧ index = index' := by
  induction path generalizing owner other with
  | nil =>
      cases reached
      rw [allProperties_eq, List.map_append, List.nodup_append] at distinct
      obtain ⟨own, -, apart⟩ := distinct
      cases other with
      | nil =>
          cases reached'
          refine ⟨rfl, ?_⟩
          have inside : index < (last.properties.map key).length := by
            rw [List.length_map]
            exact (List.getElem?_eq_some_iff.mp present).1
          apply (List.getElem?_inj inside own).mp
          rw [List.getElem?_map, List.getElem?_map, present, present', Option.map_some,
            Option.map_some, same]
      | cons next other =>
          obtain ⟨child, found, deeper⟩ := below?_cons_eq_some_iff.mp reached'
          have below : q ∈ last.subowners.flatMap allProperties :=
            List.mem_flatMap.mpr ⟨child, List.mem_of_getElem? found,
              mem_allProperties_of_getElem? deeper present'⟩
          exact absurd same (apart (key p) (List.mem_map_of_mem (List.mem_of_getElem? present))
            (key q) (List.mem_map_of_mem below))
  | cons next path ih =>
      rw [allProperties_eq, List.map_append, List.nodup_append] at distinct
      obtain ⟨-, nested, apart⟩ := distinct
      obtain ⟨child, found, deeper⟩ := below?_cons_eq_some_iff.mp reached
      have inside := mem_allProperties_of_getElem? deeper present
      cases other with
      | nil =>
          cases reached'
          have below : p ∈ last'.subowners.flatMap allProperties :=
            List.mem_flatMap.mpr ⟨child, List.mem_of_getElem? found, inside⟩
          exact absurd same.symm (apart (key q)
            (List.mem_map_of_mem (List.mem_of_getElem? present'))
            (key p) (List.mem_map_of_mem below))
      | cons next' other =>
          obtain ⟨sibling, found', deeper'⟩ := below?_cons_eq_some_iff.mp reached'
          have inside' := mem_allProperties_of_getElem? deeper' present'
          rw [List.map_flatMap] at nested
          have equal := child_unique nested found found' inside inside' same
          subst equal
          rw [found] at found'
          cases found'
          have below := (List.nodup_flatMap.mp nested).1 child (List.mem_of_getElem? found)
          obtain ⟨rfl, rfl⟩ := ih below deeper deeper'
          exact ⟨rfl, rfl⟩

end Owner

namespace Tree

theorem allProperties_eq_root (tree : Tree) : tree.allProperties = tree.root.allProperties := by
  rw [Owner.allProperties_eq, allProperties, Owner.propertiesOf_eq]
  rfl

theorem allProperties_map (f : Property → Property) (tree : Tree) :
    (tree.map f).allProperties = tree.allProperties.map f := by
  rw [allProperties_eq_root, allProperties_eq_root, root_map, Owner.allProperties_map]

/-- The list has exactly the properties that stand in some slot. -/
theorem mem_allProperties_iff {tree : Tree} {p : Property} :
    p ∈ tree.allProperties ↔ ∃ slot, tree.get? slot = some p := by
  rw [allProperties_eq_root, Owner.mem_allProperties_iff]
  simp only [get?_eq, Option.bind_eq_some_iff]
  constructor
  · rintro ⟨path, last, reached, present⟩
    obtain ⟨index, found⟩ := List.mem_iff_getElem?.mp present
    exact ⟨⟨path, index⟩, last, reached, found⟩
  · rintro ⟨slot, last, reached, found⟩
    exact ⟨slot.path, last, reached, List.mem_of_getElem? found⟩

theorem mem_allProperties_of_find? {tree : Tree} {uri : String} {p : Property}
    (found : tree.find? uri = some p) : p ∈ tree.allProperties := by
  obtain ⟨slot, -, present⟩ := find?_eq_some_iff.mp found
  exact mem_allProperties_iff.mpr ⟨slot, present⟩

theorem slot_unique {α : Type} {key : Property → α} {tree : Tree}
    (distinct : (tree.allProperties.map key).Nodup) {slot other : Slot} {p q : Property}
    (present : tree.get? slot = some p) (present' : tree.get? other = some q)
    (same : key p = key q) : slot = other := by
  rw [get?_eq, Option.bind_eq_some_iff] at present present'
  obtain ⟨last, reached, found⟩ := present
  obtain ⟨last', reached', found'⟩ := present'
  rw [allProperties_eq_root] at distinct
  obtain ⟨samePath, sameIndex⟩ := Owner.slot_unique distinct reached found reached' found' same
  cases slot
  cases other
  simp_all

end Tree

end StoryMarkers
