import Mathlib.Data.List.Forall2
import StoryMarkers.Proofs.Scene.WellFormed

/-!
From a snapshot to what is shown. The nodes of a scene are found by address from the root of the
tree, not taken from the owners they stand for. In a well formed tree both come to the same: a node
is a child of a scene root that carries a tag of the story and has all four properties of its own.
-/

set_option autoImplicit false

namespace StoryMarkers

/-- What a partial function makes of a list goes with the elements that it is defined for. -/
theorem forall₂_filterMap {α β : Type} {R : α → β → Prop} {f : α → Option β} {keep : α → Bool}
    {xs : List α} (defined : ∀ x ∈ xs, (f x).isSome = keep x)
    (related : ∀ x ∈ xs, ∀ y, f x = some y → R x y) :
    List.Forall₂ R (xs.filter keep) (xs.filterMap f) := by
  induction xs with
  | nil => exact List.Forall₂.nil
  | cons x rest ih =>
      obtain ⟨here, later⟩ := List.forall_mem_cons.mp defined
      obtain ⟨head, tail⟩ := List.forall_mem_cons.mp related
      cases made : f x with
      | none =>
          rw [made] at here
          rw [List.filter_cons_of_neg (by simp [← here]), List.filterMap_cons_none made]
          exact ih later tail
      | some y =>
          rw [made] at here
          rw [List.filter_cons_of_pos here.symm, List.filterMap_cons_some made]
          exact List.Forall₂.cons (head y made) (ih later tail)

namespace Tree

/-- The children of all scene roots, in the order of the tree. -/
def childrenOf (tree : Tree) (sceneRoot : String) : List Owner :=
  (tree.rootsNamed sceneRoot).flatMap (·.subowners)

theorem mem_childrenOf_iff {tree : Tree} {sceneRoot : String} {owner : Owner} :
    owner ∈ tree.childrenOf sceneRoot ↔
      ∃ scene ∈ tree.subowners, scene.identifier = sceneRoot ∧ owner ∈ scene.subowners := by
  simp only [childrenOf, rootsNamed, List.mem_flatMap, List.mem_filter, decide_eq_true_eq,
    and_assoc]

end Tree

/-- Whether an owner has a property of its own under each of the four addresses of its node. -/
def Owner.OwnsTracked (sceneRoot : String) (owner : Owner) : Prop :=
  ∀ kind ∈ Tracked.all, ∃ p ∈ owner.properties, p.uri = kind.uri sceneRoot owner.identifier

instance (sceneRoot : String) (owner : Owner) : Decidable (owner.OwnsTracked sceneRoot) :=
  inferInstanceAs (Decidable (∀ kind ∈ Tracked.all, ∃ p ∈ owner.properties,
    p.uri = kind.uri sceneRoot owner.identifier))

/-- Whether an owner belongs to a story: a tag contains the story, and no property is missing. -/
def Owner.Belongs (sceneRoot story : String) (owner : Owner) : Prop :=
  (∃ tag ∈ owner.tags, story.toList <:+: tag.toList) ∧ owner.OwnsTracked sceneRoot

instance (sceneRoot story : String) (owner : Owner) : Decidable (owner.Belongs sceneRoot story) :=
  inferInstanceAs (Decidable ((∃ tag ∈ owner.tags, story.toList <:+: tag.toList) ∧
    owner.OwnsTracked sceneRoot))

/-- A node that stands for an owner: it has the owner's names, and the owner's own properties in
their order. -/
structure Node.StandsFor (sceneRoot : String) (owner : Owner) (node : Node) : Prop where
  identifier : node.identifier = owner.identifier
  tags : node.tags = owner.tags
  own : ∀ p ∈ node.properties, p ∈ owner.properties
  order : node.properties.map (·.uri) = Tracked.all.map (·.uri sceneRoot owner.identifier)

theorem Owner.hasTag_iff {owner : Owner} {story : String} :
    owner.hasTag story = true ↔ ∃ tag ∈ owner.tags, story.toList <:+: tag.toList := by
  simp only [hasTag, List.any_eq_true, Text.occursIn_iff]

namespace Tree

variable {tree : Tree} {sceneRoot : String} {owner : Owner}

/-- The names on the way to a child of a scene root have no dots. -/
theorem WellAddressed.dotFree_child (well : tree.WellAddressed)
    (child : owner ∈ tree.childrenOf sceneRoot) :
    Uri.DotFree sceneRoot ∧ Uri.DotFree owner.identifier := by
  obtain ⟨scene, atRoot, rfl, inside⟩ := mem_childrenOf_iff.mp child
  obtain ⟨clean, spelled⟩ := (Owner.spelled_iff.mp well.spelled).2 scene atRoot
  exact ⟨clean, ((Owner.spelled_iff.mp spelled).2 owner inside).1⟩

theorem owners_tracked (root : Uri.DotFree sceneRoot) {name : String} (clean : Uri.DotFree name)
    (kind : Tracked) : Uri.owners (kind.uri sceneRoot name) = [sceneRoot, name] := by
  rw [Tracked.uri, Uri.owners_child kind.dotFree_name, Uri.segments_child,
    Uri.segments_of_dotFree root, Uri.segments_of_dotFree clean]
  rfl

/-- A path that spells the name of a scene root and another one leads to a child of that name. -/
theorem mem_childrenOf_of_namesTo? {path : List Nat} {name : String} {last : Owner}
    (spelled : Owner.namesTo? path tree.root = some [sceneRoot, name])
    (reached : Owner.below? path tree.root = some last) :
    last ∈ tree.childrenOf sceneRoot ∧ last.identifier = name := by
  cases path with
  | nil => simp [Owner.namesTo?] at spelled
  | cons i path =>
      obtain ⟨scene, rest, found, deeper, names⟩ := Owner.namesTo?_cons_eq_some_iff.mp spelled
      obtain ⟨rfl, rfl⟩ := List.cons_eq_cons.mp names
      cases path with
      | nil => simp [Owner.namesTo?] at deeper
      | cons j path =>
          obtain ⟨child, rest, found', deepest, names'⟩ :=
            Owner.namesTo?_cons_eq_some_iff.mp deeper
          obtain ⟨rfl, rfl⟩ := List.cons_eq_cons.mp names'
          cases Owner.namesTo?_eq_some_nil_iff.mp deepest
          simp only [Owner.below?, found, found', Option.bind_some, Option.some.injEq] at reached
          subst reached
          exact ⟨mem_childrenOf_iff.mpr
            ⟨scene, List.mem_of_getElem? found, rfl, List.mem_of_getElem? found'⟩, rfl⟩

theorem mem_allProperties_of_child (child : owner ∈ tree.childrenOf sceneRoot) {p : Property}
    (own : p ∈ owner.properties) : p ∈ tree.allProperties := by
  obtain ⟨scene, atRoot, -, inside⟩ := mem_childrenOf_iff.mp child
  obtain ⟨i, found⟩ := List.mem_iff_getElem?.mp atRoot
  obtain ⟨j, found'⟩ := List.mem_iff_getElem?.mp inside
  rw [allProperties_eq_root]
  apply Owner.mem_allProperties_iff.mpr
  refine ⟨[i, j], owner, ?_, own⟩
  apply Owner.below?_cons_eq_some_iff.mpr
  exact ⟨scene, found, Owner.below?_cons_eq_some_iff.mpr ⟨owner, found', rfl⟩⟩

/-- The address of a node's property leads back to the owner that it was made for. -/
theorem WellFormed.find?_tracked_iff (well : tree.WellFormed sceneRoot)
    (child : owner ∈ tree.childrenOf sceneRoot) {kind : Tracked} {p : Property} :
    tree.find? (kind.uri sceneRoot owner.identifier) = some p ↔
      p ∈ owner.properties ∧ p.uri = kind.uri sceneRoot owner.identifier := by
  obtain ⟨root, clean⟩ := well.dotFree_child child
  constructor
  · intro found
    refine ⟨?_, well.uri_of_find? found⟩
    obtain ⟨slot, reached, present⟩ := find?_eq_some_iff.mp found
    obtain ⟨names, -⟩ := spelling?_eq_some_iff.mp (spelling?_of_slot? reached)
    rw [owners_tracked root clean] at names
    rw [get?_eq, Option.bind_eq_some_iff] at present
    obtain ⟨last, below, own⟩ := present
    obtain ⟨child', name⟩ := mem_childrenOf_of_namesTo? names below
    -- Children of scene roots are told apart by their names.
    have same : last = owner := List.inj_on_of_nodup_map well.apart child' child name
    exact same ▸ List.mem_of_getElem? own
  · rintro ⟨own, spelled⟩
    rw [← spelled]
    exact well.find?_of_mem (mem_allProperties_of_child child own)

/-- A child of a scene root has a node exactly if it owns all four properties. -/
theorem WellFormed.isSome_ofOwner?_iff (well : tree.WellFormed sceneRoot)
    (child : owner ∈ tree.childrenOf sceneRoot) :
    (Node.ofOwner? tree sceneRoot owner).isSome = true ↔ owner.OwnsTracked sceneRoot := by
  rw [Node.isSome_ofOwner?_iff]
  simp only [Option.isSome_iff_exists, well.find?_tracked_iff child, Owner.OwnsTracked,
    Tracked.mem_all, forall_const]

theorem WellFormed.standsFor (well : tree.WellFormed sceneRoot)
    (child : owner ∈ tree.childrenOf sceneRoot) {node : Node}
    (made : Node.ofOwner? tree sceneRoot owner = some node) :
    node.StandsFor sceneRoot owner := by
  obtain ⟨identifier, tags, found⟩ := Node.ofOwner?_eq_some_iff.mp made
  have own : ∀ kind : Tracked, node.property kind ∈ owner.properties ∧
      (node.property kind).uri = kind.uri sceneRoot owner.identifier :=
    fun kind => (well.find?_tracked_iff child).mp (found kind)
  refine ⟨identifier, tags, ?_, ?_⟩
  · intro p member
    obtain ⟨kind, rfl⟩ := Node.mem_properties_iff.mp member
    exact (own kind).1
  · rw [Node.properties, List.map_map]
    exact List.map_congr_left fun kind _ => (own kind).2

/-- Among some children of scene roots those that own all four properties have nodes, in order. -/
theorem WellFormed.forall₂_standsFor (well : tree.WellFormed sceneRoot) {owners : List Owner}
    (children : ∀ owner ∈ owners, owner ∈ tree.childrenOf sceneRoot) :
    List.Forall₂ (fun owner node => Node.StandsFor sceneRoot owner node)
      (owners.filter (·.OwnsTracked sceneRoot))
      (owners.filterMap (Node.ofOwner? tree sceneRoot)) := by
  apply forall₂_filterMap
  · intro owner member
    rw [Bool.eq_iff_iff, well.isSome_ofOwner?_iff (children owner member), decide_eq_true_iff]
  · intro owner member node made
    exact well.standsFor (children owner member) made

end Tree

namespace Scene

variable {tree : Tree} {settings : Settings}

/-- The nodes of a well formed tree stand for the children of the scene roots that belong to the
story. -/
theorem forall₂_nodesOf (well : tree.WellFormed settings.sceneRoot) {story : Property}
    (found : tree.find? settings.storyUri = some story) :
    List.Forall₂ (fun owner node => Node.StandsFor settings.sceneRoot owner node)
      ((tree.childrenOf settings.sceneRoot).filter (·.Belongs settings.sceneRoot story.value))
      (nodesOf tree settings) := by
  have split : (tree.childrenOf settings.sceneRoot).filter
        (·.Belongs settings.sceneRoot story.value) =
      (ownersOf tree settings.sceneRoot story.value).filter
        (·.OwnsTracked settings.sceneRoot) := by
    rw [ownersOf, List.filter_filter]
    apply List.filter_congr
    intro owner _
    rw [Bool.eq_iff_iff, Bool.and_eq_true, decide_eq_true_iff, decide_eq_true_iff,
      Owner.hasTag_iff]
    exact and_comm
  rw [split, nodesOf, found]
  apply well.forall₂_standsFor
  intro owner member
  exact (List.mem_filter.mp member).1

theorem nodup_keys (well : tree.WellFormed settings.sceneRoot) (catalog : Catalog)
    (policy : Policy) :
    ((markers ⟨nodesOf tree settings, catalog⟩ policy).map (·.key)).Nodup := by
  have addressed : Node.Addressed settings.sceneRoot (nodesOf tree settings) :=
    addressed_nodesOf well.toWellAddressed
  have positions : ((nodesOf tree settings).map fun node => node.position.uri).Nodup := by
    rw [List.nodup_map_iff_inj_on (nodup_identifiers well).of_map]
    intro node member other member' same
    have spelled := addressed node member .position
    have spelled' := addressed other member' .position
    simp only [Node.property] at spelled spelled'
    rw [spelled, spelled'] at same
    exact List.inj_on_of_nodup_map (nodup_identifiers well) member member' (Tracked.uri_inj same).2
  simp only [markers, List.map_map]
  exact positions.sublist (List.filter_sublist.map _)

end Scene

namespace Property

/-- No other content of a document is stored the way a string is. -/
theorem ofContent_eq_string_iff {content : Json.Value} {text : String} :
    ofContent content = ofContent (.string text) ↔ content = .string text := by
  cases content <;> simp [ofContent]

theorem isString_iff {p : Property} {text : String} :
    p.isString text = true ↔ (p.value, p.quoted) = ofContent (.string text) := by
  simp only [isString, ofContent, Bool.and_eq_true, decide_eq_true_eq, Prod.mk.injEq, and_comm]

end Property

namespace Scene

/-- The markers of a scene show its visible nodes, in order. -/
theorem forall₂_markers (scene : Scene) (policy : Policy) :
    List.Forall₂
      (fun node marker => marker.key = node.position.uri ∧ marker.identifier = node.identifier ∧
        marker.planet = scene.catalog.planets.find? (·.name = node.identifier))
      (scene.nodes.filter fun node =>
        (node.visibility.value, node.visibility.quoted) = Property.ofContent (.string "true"))
      (scene.markers policy) := by
  have visible : scene.nodes.filter (fun node =>
      (node.visibility.value, node.visibility.quoted) = Property.ofContent (.string "true")) =
      scene.nodes.filter (·.isVisible) := by
    apply List.filter_congr
    intro node _
    rw [Bool.eq_iff_iff, decide_eq_true_eq, Node.isVisible, Property.isString_iff]
  rw [visible, markers, List.forall₂_map_right_iff, List.forall₂_same]
  intro node _
  exact ⟨rfl, rfl, rfl⟩

/-- What is shown of a well formed tree. Without a story there are no nodes. With one the nodes
stand, each once and in the order of the tree, for those children of the scene roots that have a tag
with the story in it and own all four properties, and carry their names and these very properties.
The markers show the nodes whose visibility is stored as the string `true`, and as nothing else is,
whether it was read or streamed; they are told apart by their keys, and come with the first planet
of their name. -/
theorem scene_of_wellFormed (snapshot : Snapshot) (settings : Settings)
    (well : snapshot.tree.WellFormed settings.sceneRoot) :
    let scene := Scene.ofSnapshot snapshot settings
    let markers := scene.markers settings.policy
    (snapshot.tree.find? settings.storyUri = none → scene.nodes = []) ∧
    (∀ story, snapshot.tree.find? settings.storyUri = some story →
      List.Forall₂ (fun owner node => Node.StandsFor settings.sceneRoot owner node)
        ((snapshot.tree.childrenOf settings.sceneRoot).filter
          (·.Belongs settings.sceneRoot story.value))
        scene.nodes) ∧
    (scene.nodes.map (·.identifier)).Nodup ∧
    List.Forall₂
      (fun node marker => marker.key = node.position.uri ∧ marker.identifier = node.identifier ∧
        marker.planet = scene.catalog.planets.find? (·.name = node.identifier))
      (scene.nodes.filter fun node =>
        (node.visibility.value, node.visibility.quoted) = Property.ofContent (.string "true"))
      markers ∧
    (markers.map (·.key)).Nodup ∧
    (∀ content, Property.ofContent content = Property.ofContent (.string "true") ↔
      content = .string "true") ∧
    ∀ (p : Property) (text : String), ((p.setValue text).value, (p.setValue text).quoted) =
      Property.ofContent (.string text) := by
  intro scene markers
  refine ⟨?_, fun story => forall₂_nodesOf well, nodup_identifiers well,
    scene.forall₂_markers settings.policy, nodup_keys well scene.catalog settings.policy,
    fun content => Property.ofContent_eq_string_iff, fun p text => rfl⟩
  intro absent
  change nodesOf snapshot.tree settings = []
  rw [nodesOf, absent]

/-- Two scenes: a moon with a part of its own name and a comet that lacks its distance in the one, a
planet in the other. -/
def neighbours : Snapshot where
  tree := {
    subowners := [
      { identifier := "Story", properties := [{ uri := "Story.Identifier", value := "sky" }] },
      { identifier := "Scene"
        subowners := [
          { identifier := "Moon"
            tags := ["night", "story_sky"]
            subowners := [
              { identifier := "Moon"
                properties := [{ uri := "Scene.Moon.Moon.ScreenVisibility", value := "false" }] }]
            properties := Tracked.all.map fun kind => property kind "Moon" },
          { identifier := "Comet"
            tags := ["story_sky"]
            properties := [property .position "Comet", property .visibility "Comet"] }] },
      { identifier := "Scene"
        subowners := [
          { identifier := "Earth"
            tags := ["story_sky"]
            properties := Tracked.all.map fun kind => property kind "Earth" }] }] }
where
  property (kind : Tracked) (node : String) : Property :=
    { uri := kind.uri "Scene" node, value := "true" }

theorem scene_of_neighbours :
    let settings : Settings := {}
    let story : Property := { uri := "Story.Identifier", value := "sky" }
    let shown := (neighbours.tree.childrenOf settings.sceneRoot).filter
      (·.Belongs settings.sceneRoot story.value)
    let scene := Scene.ofSnapshot neighbours settings
    neighbours.tree.WellFormed settings.sceneRoot ∧
      neighbours.tree.find? settings.storyUri = some story ∧
      shown.map (·.identifier) = ["Moon", "Earth"] ∧
      List.Forall₂ (fun owner node => Node.StandsFor settings.sceneRoot owner node)
        shown scene.nodes ∧
      ((scene.markers settings.policy).map (·.key)).Nodup := by
  intro settings story shown scene
  have well : neighbours.tree.WellFormed settings.sceneRoot := by decide +kernel
  have found : neighbours.tree.find? settings.storyUri = some story := by decide +kernel
  obtain ⟨-, nodes, -, -, keys, -⟩ := scene_of_wellFormed neighbours settings well
  exact ⟨well, found, by decide +kernel, nodes story found, keys⟩

end Scene

end StoryMarkers
