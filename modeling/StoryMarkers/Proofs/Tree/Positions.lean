import Mathlib.Data.List.Sort
import StoryMarkers.Proofs.Tree.Listing
import StoryMarkers.Proofs.Tree.Writing

set_option autoImplicit false

namespace StoryMarkers

namespace Slot

/-- The same slot seen from one level higher, where its owner has the given index. -/
def below (index : Nat) (slot : Slot) : Slot := { slot with path := index :: slot.path }

theorem lt_iff {slot other : Slot} :
    slot < other ↔
      slot.path < other.path ∨ slot.path = other.path ∧ slot.index < other.index :=
  Prod.Lex.toLex_lt_toLex

theorem below_lt_below {index : Nat} {slot other : Slot} (before : slot < other) :
    slot.below index < other.below index := by
  rw [lt_iff] at before ⊢
  rcases before with earlier | ⟨same, earlier⟩
  · exact Or.inl (List.Lex.cons earlier)
  · exact Or.inr ⟨congrArg (index :: ·) same, earlier⟩

theorem below_lt_below_of_lt {index later : Nat} (before : index < later) (slot other : Slot) :
    slot.below index < other.below later :=
  lt_iff.mpr (Or.inl (List.Lex.rel before))

/-- What an owner has itself stands before all that is inside the owners below it. -/
theorem nil_lt_below (index next : Nat) (slot : Slot) : (⟨[], index⟩ : Slot) < slot.below next :=
  lt_iff.mpr (Or.inl List.Lex.nil)

end Slot

namespace Owner

mutual

/-- The properties of an owner and of all owners below it, each with its slot. -/
def positioned : Owner → List (Slot × Property)
  | ⟨_, _, subowners, properties⟩ =>
    properties.zipIdx.map (fun (p, index) => (⟨[], index⟩, p)) ++ positionedOf 0 subowners

/-- The same for owners of one level, the first of which has the given index. -/
def positionedOf (index : Nat) : List Owner → List (Slot × Property)
  | [] => []
  | owner :: rest =>
    owner.positioned.map (Prod.map (Slot.below index) id) ++ positionedOf (index + 1) rest

end

theorem positionedOf_eq (index : Nat) (owners : List Owner) :
    positionedOf index owners = (owners.zipIdx index).flatMap fun (owner, index) =>
      owner.positioned.map (Prod.map (Slot.below index) id) := by
  induction owners generalizing index with
  | nil => rfl
  | cons owner rest ih => rw [positionedOf, ih, List.zipIdx_cons, List.flatMap_cons]

theorem positioned_eq (owner : Owner) :
    owner.positioned =
      owner.properties.zipIdx.map (fun (p, index) => (⟨[], index⟩, p)) ++
        owner.subowners.zipIdx.flatMap fun (child, index) =>
          child.positioned.map (Prod.map (Slot.below index) id) := by
  cases owner
  rw [positioned, positionedOf_eq]

/-- Without the slots it is the list of all properties. -/
theorem map_snd_positioned (owner : Owner) :
    owner.positioned.map Prod.snd = owner.allProperties := by
  induction owner using inductOn with
  | step owner ih =>
      have own : (owner.properties.zipIdx.map fun (p, index) =>
          ((⟨[], index⟩ : Slot), p)).map Prod.snd = owner.properties := by
        rw [List.map_map]
        exact List.zipIdx_map_fst 0 owner.properties
      have children : owner.subowners.flatMap allProperties =
          owner.subowners.zipIdx.flatMap fun (child, _) => child.allProperties := by
        rw [← List.zipIdx_map_fst 0 owner.subowners, List.flatMap_map, List.zipIdx_map_fst]
      rw [positioned_eq, allProperties_eq, List.map_append, own, children, List.map_flatMap]
      congr 1
      apply List.flatMap_congr
      rintro ⟨child, index⟩ member
      have inside : child ∈ owner.subowners :=
        List.fst_mem_of_mem_zipIdx member
      rw [List.map_map]
      exact ih child inside

/-- The list has a property in a slot exactly if the slot holds it. -/
theorem mem_positioned_iff {owner : Owner} {slot : Slot} {p : Property} :
    (slot, p) ∈ owner.positioned ↔
      ∃ last, below? slot.path owner = some last ∧ last.properties[slot.index]? = some p := by
  induction owner using inductOn generalizing slot with
  | step owner ih =>
      obtain ⟨path, index⟩ := slot
      rw [positioned_eq]
      simp only [List.mem_append, List.mem_map, List.mem_flatMap, Prod.exists,
        List.mk_mem_zipIdx_iff_getElem?, Prod.map_apply, id_eq, Prod.mk.injEq]
      constructor
      · rintro (⟨q, place, present, same, rfl⟩ | ⟨child, next, found, slot, q, inside, same, rfl⟩)
        · cases same
          exact ⟨owner, rfl, present⟩
        · cases same
          obtain ⟨last, reached, present⟩ := (ih child (List.mem_of_getElem? found)).mp inside
          exact ⟨last, below?_cons_eq_some_iff.mpr ⟨child, found, reached⟩, present⟩
      · rintro ⟨last, reached, present⟩
        cases path with
        | nil =>
            cases reached
            exact Or.inl ⟨p, index, present, rfl, rfl⟩
        | cons next path =>
            obtain ⟨child, found, deeper⟩ := below?_cons_eq_some_iff.mp reached
            have inside : ((⟨path, index⟩ : Slot), p) ∈ child.positioned :=
              (ih child (List.mem_of_getElem? found)).mpr ⟨last, deeper, present⟩
            exact Or.inr ⟨child, next, found, ⟨path, index⟩, p, inside, rfl, rfl⟩

private theorem pairwise_snd_zipIdx {α : Type} (xs : List α) (start : Nat) :
    (xs.zipIdx start).Pairwise fun x y => x.2 < y.2 := by
  rw [← List.pairwise_map (f := Prod.snd), List.zipIdx_map_snd]
  exact List.pairwise_lt_range'

/-- The slots come in the order of the tree. -/
theorem pairwise_positioned (owner : Owner) :
    owner.positioned.Pairwise fun x y => x.1 < y.1 := by
  induction owner using inductOn with
  | step owner ih =>
      rw [positioned_eq, List.pairwise_append]
      refine ⟨?_, ?_, ?_⟩
      · rw [List.pairwise_map]
        apply (pairwise_snd_zipIdx owner.properties 0).imp
        intro x y before
        exact Slot.lt_iff.mpr (Or.inr ⟨rfl, before⟩)
      · rw [List.pairwise_flatMap]
        constructor
        · rintro ⟨child, index⟩ member
          have inside : child ∈ owner.subowners :=
            List.fst_mem_of_mem_zipIdx member
          rw [List.pairwise_map]
          exact (ih child inside).imp Slot.below_lt_below
        · apply (pairwise_snd_zipIdx owner.subowners 0).imp
          intro x y before a left b right
          obtain ⟨a, -, rfl⟩ := List.mem_map.mp left
          obtain ⟨b, -, rfl⟩ := List.mem_map.mp right
          exact Slot.below_lt_below_of_lt before a.1 b.1
      · intro a left b right
        obtain ⟨⟨p, index⟩, -, rfl⟩ := List.mem_map.mp left
        obtain ⟨⟨child, next⟩, -, deeper⟩ := List.mem_flatMap.mp right
        obtain ⟨b, -, rfl⟩ := List.mem_map.mp deeper
        exact Slot.nil_lt_below index next b.1

end Owner

namespace Tree

/-- Every property of the tree with its slot, those of the root first. -/
def positioned (tree : Tree) : List (Slot × Property) := tree.root.positioned

variable {tree : Tree} {slot : Slot} {p : Property}

theorem map_snd_positioned (tree : Tree) : tree.positioned.map Prod.snd = tree.allProperties := by
  rw [allProperties_eq_root]
  exact tree.root.map_snd_positioned

theorem mem_positioned_iff : (slot, p) ∈ tree.positioned ↔ tree.get? slot = some p := by
  rw [get?_eq, Option.bind_eq_some_iff]
  exact Owner.mem_positioned_iff

theorem pairwise_positioned (tree : Tree) : tree.positioned.Pairwise fun x y => x.1 < y.1 :=
  tree.root.pairwise_positioned

/-- Every property has one place in the list. -/
theorem exists_position (present : tree.get? slot = some p) :
    ∃ index : Nat, tree.positioned[index]? = some (slot, p) :=
  List.mem_iff_getElem?.mp (mem_positioned_iff.mpr present)

theorem nodup_slots (tree : Tree) : (tree.positioned.map Prod.fst).Nodup := by
  rw [List.Nodup, List.pairwise_map]
  exact tree.pairwise_positioned.imp fun before => ne_of_lt before

theorem position_unique {index other : Nat} {q : Property}
    (here : tree.positioned[index]? = some (slot, p))
    (there : tree.positioned[other]? = some (slot, q)) : index = other := by
  have inside : index < (tree.positioned.map Prod.fst).length := by
    rw [List.length_map]
    exact (List.getElem?_eq_some_iff.mp here).1
  apply (List.getElem?_inj inside tree.nodup_slots).mp
  rw [List.getElem?_map, List.getElem?_map, here, there]
  rfl

/-- A write changes one element of the list, in the place of its slot. -/
theorem positioned_modify {index : Nat} (here : tree.positioned[index]? = some (slot, p))
    (change : Property → Property) :
    (tree.modify slot change).positioned = tree.positioned.set index (slot, change p) := by
  -- Both lists hold the same in the same slots, and both are in the order of the slots.
  have written : (tree.modify slot change).positioned =
      tree.positioned.map fun x => (x.1, if x.1 = slot then change x.2 else x.2) := by
    apply (tree.modify slot change).pairwise_positioned.eq_of_mem_iff
    · rw [List.pairwise_map]
      exact tree.pairwise_positioned
    · rintro ⟨other, q⟩
      simp only [mem_positioned_iff, get?_modify, List.mem_map, Prod.exists, Prod.mk.injEq]
      by_cases same : other = slot
      · subst same
        simp
      · simp [same]
  rw [written]
  apply List.ext_getElem?
  intro position
  rw [List.getElem?_map, List.getElem?_set]
  by_cases same : index = position
  · subst same
    have inside := (List.getElem?_eq_some_iff.mp here).1
    rw [if_pos rfl, if_pos inside, here, Option.map_some, if_pos rfl]
  · rw [if_neg same]
    cases there : tree.positioned[position]? with
    | none => rfl
    | some x =>
        have apart : x.1 ≠ slot := by
          rintro rfl
          exact same (position_unique here there)
        simp [apart]

end Tree

end StoryMarkers
