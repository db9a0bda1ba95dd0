import StoryMarkers.Proofs.Scene.Nodes
import StoryMarkers.Proofs.Subscription.Batches
import StoryMarkers.Proofs.Tree.WellAddressed

set_option autoImplicit false

namespace StoryMarkers

/-- A tree in which addresses say where properties stand and names of nodes tell them apart. -/
structure Tree.WellFormed (tree : Tree) (sceneRoot : String) : Prop extends tree.WellAddressed where
  apart : (((tree.rootsNamed sceneRoot).flatMap (·.subowners)).map (·.identifier)).Nodup

instance (tree : Tree) (sceneRoot : String) : Decidable (tree.WellFormed sceneRoot) :=
  decidable_of_iff
    (tree.WellAddressed ∧
      (((tree.rootsNamed sceneRoot).flatMap (·.subowners)).map (·.identifier)).Nodup)
    ⟨fun ⟨well, apart⟩ => ⟨well, apart⟩, fun well => ⟨well.toWellAddressed, well.apart⟩⟩

namespace Tree

variable {f : Property → Property} (keeps : ∀ p, (f p).uri = p.uri)

include keeps in
theorem wellFormed_map {tree : Tree} {sceneRoot : String} :
    (tree.map f).WellFormed sceneRoot ↔ tree.WellFormed sceneRoot := by
  have same : (((tree.map f).rootsNamed sceneRoot).flatMap (·.subowners)).map (·.identifier) =
      ((tree.rootsNamed sceneRoot).flatMap (·.subowners)).map (·.identifier) := by
    simp only [rootsNamed_map, List.flatMap_map, Owner.map_subowners, List.map_flatMap,
      List.map_map, Function.comp_def, Owner.map_identifier]
  constructor
  · rintro ⟨well, apart⟩
    exact ⟨(wellAddressed_map keeps).mp well, same ▸ apart⟩
  · rintro ⟨well, apart⟩
    exact ⟨(wellAddressed_map keeps).mpr well, same ▸ apart⟩

include keeps in
/-- Whether a tree is well formed is a matter of names and addresses alone. -/
theorem wellFormed_congr {tree other : Tree} (same : tree.map f = other.map f)
    {sceneRoot : String} : tree.WellFormed sceneRoot ↔ other.WellFormed sceneRoot := by
  rw [← wellFormed_map keeps, same, wellFormed_map keeps]

end Tree

namespace Scene

variable {tree : Tree} {settings : Settings}

theorem addressed_nodesOf (well : tree.WellAddressed) :
    Node.Addressed settings.sceneRoot (nodesOf tree settings) :=
  fun _ member kind => well.uri_of_find? (find?_of_mem_nodesOf member kind)

theorem identifiers_ofOwner? (sceneRoot : String) (owners : List Owner) :
    ((owners.filterMap (Node.ofOwner? tree sceneRoot)).map (·.identifier)).Sublist
      (owners.map (·.identifier)) := by
  induction owners with
  | nil => exact List.Sublist.slnil
  | cons owner rest ih =>
      rw [List.filterMap_cons, List.map_cons]
      cases made : Node.ofOwner? tree sceneRoot owner with
      | none => exact ih.cons owner.identifier
      | some node =>
          obtain ⟨identifier, -⟩ := Node.ofOwner?_eq_some_iff.mp made
          rw [List.map_cons, identifier]
          exact ih.cons_cons owner.identifier

theorem nodup_identifiers (well : tree.WellFormed settings.sceneRoot) :
    ((nodesOf tree settings).map (·.identifier)).Nodup := by
  rw [nodesOf]
  cases tree.find? settings.storyUri with
  | none => exact List.nodup_nil
  | some story =>
      apply List.Nodup.sublist (identifiers_ofOwner? settings.sceneRoot _)
      exact well.apart.sublist (List.filter_sublist.map _)

/-- The nodes of a well formed tree follow no address twice. -/
theorem nodup_addresses (well : tree.WellFormed settings.sceneRoot) :
    (Command.addresses (nodesOf tree settings)).Nodup := by
  have addressed : Node.Addressed settings.sceneRoot (nodesOf tree settings) :=
    addressed_nodesOf well.toWellAddressed
  rw [Command.addresses, Command.tracked, List.map_flatMap, List.nodup_flatMap]
  constructor
  · intro node member
    exact Node.nodup_uris (addressed node member)
  · refine (List.pairwise_map.mp (nodup_identifiers well)).imp_of_mem ?_
    intro node other member member' different uri left right
    obtain ⟨p, inside, rfl⟩ := List.mem_map.mp left
    obtain ⟨q, inside', same⟩ := List.mem_map.mp right
    obtain ⟨kind, rfl⟩ := Node.mem_properties_iff.mp inside
    obtain ⟨kind', rfl⟩ := Node.mem_properties_iff.mp inside'
    rw [addressed node member kind, addressed other member' kind'] at same
    exact different (Tracked.uri_inj same).2.symm

end Scene

end StoryMarkers
