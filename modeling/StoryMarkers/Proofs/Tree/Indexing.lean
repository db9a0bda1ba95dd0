import StoryMarkers.Proofs.Tree.FirstMatch
import StoryMarkers.Proofs.Tree.Shadowing

set_option autoImplicit false

namespace StoryMarkers

namespace Owner

/-- Whether every index on a path is that of an owner among its siblings. -/
def InRange : List Nat → List Owner → Prop
  | [], _ => True
  | index :: path, owners =>
    ∃ inside : index < owners.length, InRange path owners[index].subowners

theorem inRange_cons_iff {index : Nat} {path : List Nat} {owners : List Owner} :
    InRange (index :: path) owners ↔
      ∃ child, owners[index]? = some child ∧ InRange path child.subowners := by
  rw [InRange]
  constructor
  · rintro ⟨inside, further⟩
    exact ⟨owners[index], List.getElem?_eq_getElem inside, further⟩
  · rintro ⟨child, found, further⟩
    obtain ⟨inside, rfl⟩ := List.getElem?_eq_some_iff.mp found
    exact ⟨inside, further⟩

theorem inRange_iff {path : List Nat} {owner : Owner} :
    InRange path owner.subowners ↔ ∃ last, below? path owner = some last := by
  induction path generalizing owner with
  | nil => exact iff_of_true trivial ⟨owner, rfl⟩
  | cons index path ih =>
      simp only [inRange_cons_iff, below?_cons_eq_some_iff, ih]
      exact ⟨fun ⟨child, found, last, reached⟩ => ⟨last, child, found, reached⟩,
        fun ⟨last, child, found, reached⟩ => ⟨child, found, last, reached⟩⟩

theorem at?_eq_below? {path : List Nat} (some : path ≠ []) (owner : Owner) :
    at? path owner.subowners = below? path owner := by
  cases path with
  | nil => exact absurd rfl some
  | cons index path => exact at?_cons index path owner.subowners

theorem length_of_namesTo? {path : List Nat} {owner : Owner} {names : List String}
    (spelled : namesTo? path owner = some names) : path.length = names.length := by
  induction path generalizing owner names with
  | nil =>
      cases spelled
      rfl
  | cons index path ih =>
      obtain ⟨child, rest, -, deeper, rfl⟩ := namesTo?_cons_eq_some_iff.mp spelled
      rw [List.length_cons, List.length_cons, ih deeper]

/-- Whether there is an index for each name, of an owner that has the name and stands among its
siblings under the index, and the last of these owners passes the test. -/
structure Arrives (accept : Owner → Bool) (names : List String) (owners : List Owner)
    (indices : List Nat) : Prop where
  length : indices.length = names.length
  inRange : InRange indices owners
  named : namesTo? indices { identifier := "", subowners := owners } = some names
  accepted : ∃ last, at? indices owners = some last ∧ accept last = true

variable {accept : Owner → Bool} {names : List String} {owners : List Owner} {indices : List Nat}

theorem Arrives.ne_nil (arrives : Arrives accept names owners indices) : indices ≠ [] := by
  rintro rfl
  obtain ⟨last, reached, -⟩ := arrives.accepted
  cases reached

theorem arrives_iff : Arrives accept names owners indices ↔
    names ≠ [] ∧ Leads accept names { identifier := "", subowners := owners } indices := by
  constructor
  · intro arrives
    have some : names ≠ [] := by
      rw [← List.length_pos_iff, ← arrives.length, List.length_pos_iff]
      exact arrives.ne_nil
    obtain ⟨last, reached, accepted⟩ := arrives.accepted
    refine ⟨some, arrives.named, last, ?_, accepted⟩
    rw [← at?_eq_below? arrives.ne_nil]
    exact reached
  · rintro ⟨some, named, last, reached, accepted⟩
    have length := length_of_namesTo? named
    have whole : indices ≠ [] := by
      rw [← List.length_pos_iff, length, List.length_pos_iff]
      exact some
    refine ⟨length, inRange_iff.mpr ⟨last, reached⟩, named, last, ?_, accepted⟩
    rw [← at?_eq_below? whole] at reached
    exact reached

theorem arrives_of_descend (found : descend accept names owners = some indices) :
    Arrives accept names owners indices := by
  have some := ne_nil_of_descend found
  have searched := search_eq_descend some accept { identifier := "", subowners := owners }
  exact arrives_iff.mpr ⟨some, (isLeast_of_search_eq_some (searched.trans found)).1⟩

theorem not_arrives_of_descend (failed : descend accept names owners = none) (indices : List Nat) :
    ¬ Arrives accept names owners indices := by
  rw [arrives_iff]
  rintro ⟨some, leads⟩
  have searched := search_eq_descend some accept { identifier := "", subowners := owners }
  exact not_leads_of_search_eq_none (searched.trans failed) indices leads

/-- An owner that was chosen for a property has it. -/
theorem exists_propertyIndex? {owner : Owner} {name : String}
    (answering : Tree.answers name owner = true) :
    ∃ index, owner.propertyIndex? name = some index := by
  rw [← Option.isSome_iff_exists, propertyIndex?, List.findIdx?_isSome]
  exact answering

end Owner

namespace Tree

variable {tree : Tree} {uri : String}

theorem slot?_of_descend {path : List Nat}
    (found : Owner.descend (answers (Uri.name uri)) (Uri.owners uri) tree.subowners = some path) :
    ∃ owner index, Owner.at? path tree.subowners = some owner ∧
      owner.propertyIndex? (Uri.name uri) = some index ∧ tree.slot? uri = some ⟨path, index⟩ := by
  have arrives := Owner.arrives_of_descend found
  obtain ⟨owner, reached, answering⟩ := arrives.accepted
  obtain ⟨index, first⟩ := Owner.exists_propertyIndex? answering
  have searched :=
    Owner.search_eq_descend (Owner.ne_nil_of_descend found) (answers (Uri.name uri)) tree.root
  have below : Owner.below? path tree.root = some owner :=
    (Owner.at?_eq_below? arrives.ne_nil tree.root).symm.trans reached
  refine ⟨owner, index, reached, first, ?_⟩
  rw [slot?_eq, searched.trans found, Option.bind_some, below, Option.bind_some, first,
    Option.map_some]

theorem inRange_of_slot? {slot : Slot} (found : tree.slot? uri = some slot) :
    Owner.InRange slot.path tree.subowners ∧
      ∃ own, Owner.propertiesAt? slot.path tree.root = some own ∧ slot.index < own.length := by
  obtain ⟨own, listed, first⟩ := findIdx?_of_slot? found
  obtain ⟨owner, reached, -⟩ := Option.map_eq_some_iff.mp listed
  refine ⟨Owner.inRange_iff.mpr ⟨owner, reached⟩, own, listed, ?_⟩
  exact (List.findIdx?_eq_some_iff_getElem.mp first).1

/-- A walk keeps the path that it shares in order, whatever owners, names and test it is given and
whatever the path holds already. If it does not arrive, as it does only if no indices at all would,
it leaves the path as it was; if it arrives, it has put one index for each name behind it, every one
that of an owner in range, and the last leads to an owner that passes the test. Hence every path and
every slot that an address leads to, in any tree, is in range at every step from the first on; and
an owner that was found for a property has it, so that the address leads to a slot, also in range.
-/
theorem walks_stay_in_range :
    (∀ (accept : Owner → Bool) (names : List String) (owners : List Owner) (path : Array Nat),
      let walked := (Owner.walk accept names owners).run path
      (walked.1 = false → walked.2 = path ∧ ∀ indices, ¬ Owner.Arrives accept names owners indices) ∧
      (walked.1 = true → ∃ indices : List Nat, walked.2 = path ++ indices ∧
        Owner.Arrives accept names owners indices)) ∧
    ∀ (tree : Tree) (uri : String),
      (∀ path, tree.ownerPath? uri = some path → path ≠ [] ∧
        Owner.InRange path tree.subowners ∧ (Owner.at? path tree.subowners).isSome) ∧
      (∀ path, Owner.descend (answers (Uri.name uri)) (Uri.owners uri) tree.subowners = some path →
        path ≠ [] ∧ Owner.InRange path tree.subowners ∧
          ∃ owner index, Owner.at? path tree.subowners = some owner ∧
            owner.propertyIndex? (Uri.name uri) = some index ∧ tree.slot? uri = some ⟨path, index⟩) ∧
      ∀ slot, tree.slot? uri = some slot → Owner.InRange slot.path tree.subowners ∧
        ∃ own, Owner.propertiesAt? slot.path tree.root = some own ∧ slot.index < own.length := by
  constructor
  · intro accept names owners path walked
    have run : walked = Owner.outcome path (Owner.descend accept names owners) :=
      Owner.run_walk accept names owners path
    rw [run]
    cases found : Owner.descend accept names owners with
    | none =>
        refine ⟨fun _ => ⟨rfl, Owner.not_arrives_of_descend found⟩, ?_⟩
        intro arrived
        cases arrived
    | some indices =>
        refine ⟨?_, fun _ => ⟨indices, rfl, Owner.arrives_of_descend found⟩⟩
        intro lost
        cases lost
  · intro tree uri
    refine ⟨?_, ?_, fun slot => inRange_of_slot?⟩
    · intro path found
      have arrives := Owner.arrives_of_descend found
      obtain ⟨last, reached, -⟩ := arrives.accepted
      refine ⟨arrives.ne_nil, arrives.inRange, ?_⟩
      rw [reached, Option.isSome_some]
    · intro path found
      have arrives := Owner.arrives_of_descend found
      exact ⟨arrives.ne_nil, arrives.inRange, slot?_of_descend found⟩

/-- Behind a path that is there already, the walk comes back from the first moon, which has no size,
and from both if the name is one that neither has. -/
theorem walks_to_second_moon :
    let owners := twoMoons.subowners
    let path : Array Nat := #[3, 0]
    let sized := (Owner.walk (answers "Size") ["Scene", "Moon"] owners).run path
    let heavy := (Owner.walk (answers "Mass") ["Scene", "Moon"] owners).run path
    (sized.1 = true ∧ ∃ indices : List Nat, sized.2 = path ++ indices ∧ indices.length = 2 ∧
      Owner.InRange indices owners) ∧
    (heavy.1 = false ∧ heavy.2 = path) ∧
    twoMoons.slot? "Scene.Moon.Size" = some ⟨[1, 0], 0⟩ ∧ Owner.InRange [1, 0] owners := by
  intro owners path sized heavy
  obtain ⟨honest, inside⟩ := walks_stay_in_range
  have arrived : sized.1 = true := by decide
  have lost : heavy.1 = false := by decide
  have found : twoMoons.slot? "Scene.Moon.Size" = some ⟨[1, 0], 0⟩ := by decide
  obtain ⟨indices, added, arrives⟩ :=
    (honest (answers "Size") ["Scene", "Moon"] owners path).2 arrived
  exact ⟨⟨arrived, indices, added, arrives.length, arrives.inRange⟩,
    ⟨lost, ((honest (answers "Mass") ["Scene", "Moon"] owners path).1 lost).1⟩,
    found, ((inside twoMoons "Scene.Moon.Size").2.2 _ found).1⟩

end Tree

end StoryMarkers
