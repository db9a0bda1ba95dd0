import Mathlib.Data.List.Nodup
import StoryMarkers.Proofs.Tree.Mapping
import StoryMarkers.Scene.Marker

set_option autoImplicit false

namespace StoryMarkers

namespace Tracked

theorem name_injective : Function.Injective name := by
  intro kind other same
  cases kind <;> cases other <;> simp_all [name]

theorem dotFree_name (kind : Tracked) : Uri.DotFree kind.name := by
  cases kind <;> decide

theorem uri_inj {sceneRoot node node' : String} {kind kind' : Tracked}
    (same : kind.uri sceneRoot node = kind'.uri sceneRoot node') : kind = kind' ∧ node = node' := by
  have split := congrArg Uri.segments same
  simp only [uri, Uri.segments_child, Uri.segments_of_dotFree (dotFree_name _)] at split
  obtain ⟨front, last⟩ := List.append_inj' split rfl
  exact ⟨name_injective (List.singleton_inj.mp last),
    Uri.segments_injective (List.append_cancel_left front)⟩

end Tracked

namespace Node

@[ext] theorem ext {node other : Node} (identifier : node.identifier = other.identifier)
    (tags : node.tags = other.tags) (property : node.property = other.property) :
    node = other := by
  have position := congrFun property .position
  have visibility := congrFun property .visibility
  have distance := congrFun property .distance
  have radius := congrFun property .radius
  cases node
  cases other
  simp_all only [Node.property]

/-- A node with all its properties replaced by their images. -/
def map (f : Property → Property) (node : Node) : Node where
  identifier := node.identifier
  tags := node.tags
  position := f node.position
  visibility := f node.visibility
  distance := f node.distance
  radius := f node.radius

theorem properties_map (f : Property → Property) (node : Node) :
    (node.map f).properties = node.properties.map f := rfl

/-- Nodes with the same images have the same names. -/
theorem exists_namesake {f : Property → Property} {nodes others : List Node}
    (same : nodes.map (map f) = others.map (map f)) {node : Node} (member : node ∈ nodes) :
    ∃ other ∈ others, other.identifier = node.identifier := by
  have inside : node.map f ∈ others.map (map f) := by
    rw [← same]
    exact List.mem_map_of_mem member
  obtain ⟨other, present, alike⟩ := List.mem_map.mp inside
  have identifier := congrArg Node.identifier alike
  exact ⟨other, present, identifier⟩

theorem mem_properties_iff {node : Node} {p : Property} :
    p ∈ node.properties ↔ ∃ kind, node.property kind = p := by
  rw [properties, List.mem_map]
  constructor
  · rintro ⟨kind, -, same⟩
    exact ⟨kind, same⟩
  · rintro ⟨kind, same⟩
    exact ⟨kind, Tracked.mem_all kind, same⟩

/-- Whether the properties of some nodes stand under the addresses that they were found by. -/
def Addressed (sceneRoot : String) (nodes : List Node) : Prop :=
  ∀ node ∈ nodes, ∀ kind : Tracked,
    (node.property kind).uri = kind.uri sceneRoot node.identifier

instance (sceneRoot : String) (nodes : List Node) : Decidable (Addressed sceneRoot nodes) :=
  decidable_of_iff
    (∀ node ∈ nodes, ∀ kind ∈ Tracked.all,
      (node.property kind).uri = kind.uri sceneRoot node.identifier)
    ⟨fun each node member kind => each node member kind kind.mem_all,
      fun each node member kind _ => each node member kind⟩

/-- A node whose properties stand under their addresses follows four different ones. -/
theorem nodup_uris {node : Node} {sceneRoot : String}
    (addressed : ∀ kind : Tracked, (node.property kind).uri = kind.uri sceneRoot node.identifier) :
    (node.properties.map (·.uri)).Nodup := by
  have distinct : Tracked.all.Nodup := by decide
  rw [properties, List.map_map]
  apply distinct.map
  intro kind other same
  change (node.property kind).uri = (node.property other).uri at same
  rw [addressed, addressed] at same
  exact (Tracked.uri_inj same).1

/-- The node of an owner has its names and whatever the four addresses lead to. -/
theorem ofOwner?_eq_some_iff {tree : Tree} {sceneRoot : String} {owner : Owner} {node : Node} :
    ofOwner? tree sceneRoot owner = some node ↔
      node.identifier = owner.identifier ∧ node.tags = owner.tags ∧
        ∀ kind : Tracked,
          tree.find? (kind.uri sceneRoot owner.identifier) = some (node.property kind) := by
  simp only [ofOwner?, Option.bind_eq_bind, Option.bind_eq_some_iff, Option.some.injEq]
  constructor
  · rintro ⟨position, atPosition, visibility, atVisibility, distance, atDistance, radius, atRadius,
      rfl⟩
    refine ⟨rfl, rfl, ?_⟩
    intro kind
    cases kind with
    | position => exact atPosition
    | visibility => exact atVisibility
    | distance => exact atDistance
    | radius => exact atRadius
  · rintro ⟨identifier, tags, found⟩
    refine ⟨_, found .position, _, found .visibility, _, found .distance, _, found .radius, ?_⟩
    ext kind
    · rw [identifier]
    · rw [tags]
    · cases kind <;> rfl

/-- Nothing but a missing property keeps an owner from having a node. -/
theorem isSome_ofOwner?_iff {tree : Tree} {sceneRoot : String} {owner : Owner} :
    (ofOwner? tree sceneRoot owner).isSome = true ↔
      ∀ kind : Tracked, (tree.find? (kind.uri sceneRoot owner.identifier)).isSome = true := by
  constructor
  · intro made kind
    obtain ⟨node, made⟩ := Option.isSome_iff_exists.mp made
    rw [(ofOwner?_eq_some_iff.mp made).2.2 kind]
    rfl
  · intro found
    obtain ⟨position, atPosition⟩ := Option.isSome_iff_exists.mp (found .position)
    obtain ⟨visibility, atVisibility⟩ := Option.isSome_iff_exists.mp (found .visibility)
    obtain ⟨distance, atDistance⟩ := Option.isSome_iff_exists.mp (found .distance)
    obtain ⟨radius, atRadius⟩ := Option.isSome_iff_exists.mp (found .radius)
    simp only [ofOwner?, atPosition, atVisibility, atDistance, atRadius, Option.bind_eq_bind,
      Option.bind_some, Option.isSome_some]

variable {f : Property → Property}

theorem ofOwner?_map (keeps : ∀ p, (f p).uri = p.uri) (tree : Tree) (sceneRoot : String)
    (owner : Owner) :
    ofOwner? (tree.map f) sceneRoot (owner.map f) =
      (ofOwner? tree sceneRoot owner).map (Node.map f) := by
  have found : ∀ kind : Tracked, (tree.map f).find? (kind.uri sceneRoot owner.identifier) =
      (tree.find? (kind.uri sceneRoot owner.identifier)).map f := by
    intro kind
    exact Tree.find?_map (fun p => congrArg Uri.name (keeps p)) tree _
  simp only [ofOwner?, Owner.map_identifier, Owner.map_tags, found]
  cases tree.find? (Tracked.position.uri sceneRoot owner.identifier) <;>
    cases tree.find? (Tracked.visibility.uri sceneRoot owner.identifier) <;>
    cases tree.find? (Tracked.distance.uri sceneRoot owner.identifier) <;>
    cases tree.find? (Tracked.radius.uri sceneRoot owner.identifier) <;> rfl

end Node

theorem Owner.hasTag_map (f : Property → Property) (owner : Owner) (needle : String) :
    (owner.map f).hasTag needle = owner.hasTag needle := by
  rw [hasTag, hasTag, map_tags]

theorem Tree.rootsNamed_map (f : Property → Property) (tree : Tree) (identifier : String) :
    (tree.map f).rootsNamed identifier = (tree.rootsNamed identifier).map (Owner.map f) := by
  simp only [rootsNamed, map, List.filter_map, Function.comp_def, Owner.map_identifier]

namespace Scene

theorem ownersOf_map (f : Property → Property) (tree : Tree) (sceneRoot story : String) :
    ownersOf (tree.map f) sceneRoot story =
      (ownersOf tree sceneRoot story).map (Owner.map f) := by
  simp only [ownersOf, Tree.rootsNamed_map, List.flatMap_map, Owner.map_subowners,
    ← List.map_flatMap, List.filter_map, Function.comp_def, Owner.hasTag_map]

/-- Whether a tree gives the scene of a story is a matter of addresses and values alone. -/
theorem nodesOf_map {f : Property → Property} (keeps : ∀ p, (f p).uri = p.uri)
    (keepsValue : ∀ p, (f p).value = p.value) (tree : Tree) (settings : Settings) :
    nodesOf (tree.map f) settings = (nodesOf tree settings).map (Node.map f) := by
  rw [nodesOf, nodesOf, Tree.find?_map fun p => congrArg Uri.name (keeps p)]
  cases tree.find? settings.storyUri with
  | none => rfl
  | some story =>
      simp only [Option.map_some, keepsValue, ownersOf_map, List.filterMap_map,
        List.map_filterMap]
      congr 1
      funext owner
      exact Node.ofOwner?_map keeps tree settings.sceneRoot owner

theorem mem_nodesOf_iff {tree : Tree} {settings : Settings} {node : Node} :
    node ∈ nodesOf tree settings ↔
      ∃ story owner, tree.find? settings.storyUri = some story ∧
        owner ∈ ownersOf tree settings.sceneRoot story.value ∧
        Node.ofOwner? tree settings.sceneRoot owner = some node := by
  rw [nodesOf]
  cases tree.find? settings.storyUri with
  | none => simp
  | some story =>
      simp only [List.mem_filterMap, Option.some.injEq]
      constructor
      · rintro ⟨owner, member, made⟩
        exact ⟨story, owner, rfl, member, made⟩
      · rintro ⟨_, owner, rfl, member, made⟩
        exact ⟨owner, member, made⟩

/-- The property of a node is what its address leads to. -/
theorem find?_of_mem_nodesOf {tree : Tree} {settings : Settings} {node : Node}
    (member : node ∈ nodesOf tree settings) (kind : Tracked) :
    tree.find? (kind.uri settings.sceneRoot node.identifier) = some (node.property kind) := by
  obtain ⟨story, owner, -, -, made⟩ := mem_nodesOf_iff.mp member
  obtain ⟨identifier, -, found⟩ := Node.ofOwner?_eq_some_iff.mp made
  rw [identifier]
  exact found kind

end Scene

theorem Marker.ofNode_map {f : Property → Property} (keeps : ∀ p, (f p).uri = p.uri)
    (keepsValue : ∀ p, (f p).value = p.value) (catalog : Catalog) (policy : Policy)
    (node : Node) : ofNode catalog policy (node.map f) = ofNode catalog policy node := by
  simp only [ofNode, Node.map, keeps, keepsValue]

/-- What is shown is a matter of addresses and of values and their kind alone. -/
theorem Scene.markers_map {f : Property → Property} (keeps : ∀ p, (f p).uri = p.uri)
    (keepsValue : ∀ p, (f p).value = p.value) (keepsKind : ∀ p, (f p).quoted = p.quoted)
    (nodes : List Node) (catalog : Catalog) (policy : Policy) :
    Scene.markers ⟨nodes.map (Node.map f), catalog⟩ policy =
      Scene.markers ⟨nodes, catalog⟩ policy := by
  have visible : ∀ node : Node, (node.map f).isVisible = node.isVisible := by
    intro node
    simp only [Node.isVisible, Property.isString, Node.map, keepsValue, keepsKind]
  simp only [markers, List.filter_map, List.map_map, Function.comp_def, visible,
    Marker.ofNode_map keeps keepsValue]

end StoryMarkers
