import StoryMarkers.Proofs.Subscription.Session

set_option autoImplicit false

namespace StoryMarkers

theorem Property.name_setValue (value : String) (p : Property) :
    Uri.name (p.setValue value).uri = Uri.name p.uri := rfl

namespace Node

/-- A node with one of its properties changed. -/
def modify (node : Node) (kind : Tracked) (change : Property → Property) : Node :=
  match kind with
  | .position => { node with position := change node.position }
  | .visibility => { node with visibility := change node.visibility }
  | .distance => { node with distance := change node.distance }
  | .radius => { node with radius := change node.radius }

@[simp] theorem identifier_modify (node : Node) (kind : Tracked) (change : Property → Property) :
    (node.modify kind change).identifier = node.identifier := by
  cases kind <;> rfl

@[simp] theorem tags_modify (node : Node) (kind : Tracked) (change : Property → Property) :
    (node.modify kind change).tags = node.tags := by
  cases kind <;> rfl

theorem property_modify (node : Node) (kind other : Tracked) (change : Property → Property) :
    (node.modify kind change).property other =
      if other = kind then change (node.property other) else node.property other := by
  cases kind <;> cases other <;> rfl

/-- What a value streamed to one property of the nodes of one name makes of a node. -/
def receive (name : String) (kind : Tracked) (value : String) (node : Node) : Node :=
  if node.identifier = name then node.modify kind (·.setValue value) else node

variable {name value : String} {kind : Tracked}

@[simp] theorem identifier_receive (node : Node) :
    (node.receive name kind value).identifier = node.identifier := by
  rw [receive]
  split <;> simp

@[simp] theorem tags_receive (node : Node) :
    (node.receive name kind value).tags = node.tags := by
  rw [receive]
  split <;> simp

theorem receive_of_ne {node : Node} (other : node.identifier ≠ name) :
    node.receive name kind value = node :=
  if_neg other

theorem property_receive (node : Node) (other : Tracked) :
    (node.receive name kind value).property other =
      if node.identifier = name ∧ other = kind then (node.property other).setValue value
      else node.property other := by
  by_cases named : node.identifier = name
  · simp only [receive, named, ↓reduceIte, property_modify, true_and]
  · simp only [receive, named, ↓reduceIte, false_and]

theorem property_map (f : Property → Property) (node : Node) (other : Tracked) :
    (node.map f).property other = f (node.property other) := by
  cases other <;> rfl

/-- A function that cannot tell values apart sees no change in the node. -/
theorem unvalued_receive (node : Node) :
    (node.receive name kind value).map Property.unvalued = node.map Property.unvalued := by
  apply Node.ext
  · exact node.identifier_receive
  · exact node.tags_receive
  · funext other
    rw [property_map, property_map, property_receive]
    split <;> rfl

/-- An owner's node is a matter of its names and of the tree. -/
theorem ofOwner?_unvalued (tree : Tree) (sceneRoot : String) (owner : Owner) :
    ofOwner? tree sceneRoot (owner.map Property.unvalued) = ofOwner? tree sceneRoot owner := by
  simp only [ofOwner?, Owner.map_identifier, Owner.map_tags]

end Node

namespace Tree

/-- A value streamed to a property of one node is read there and at no other property of a node. -/
theorem find?_stream (tree : Tree) (sceneRoot name value : String) (kind : Tracked)
    (node : String) (other : Tracked) :
    (tree.update (kind.uri sceneRoot name) (·.setValue value)).find? (other.uri sceneRoot node) =
      (tree.find? (other.uri sceneRoot node)).map fun p =>
        if node = name ∧ other = kind then p.setValue value else p := by
  rw [find?_update (Property.name_setValue value)]
  by_cases hit : node = name ∧ other = kind
  · obtain ⟨rfl, rfl⟩ := hit
    simp only [and_self, ↓reduceIte]
  · have apart : other.uri sceneRoot node ≠ kind.uri sceneRoot name := by
      intro same
      obtain ⟨sameKind, sameNode⟩ := Tracked.uri_inj same
      exact hit ⟨sameNode, sameKind⟩
    simp only [apart, hit, ↓reduceIte, Option.map_id']

end Tree

namespace Node

theorem ofOwner?_stream (tree : Tree) (sceneRoot name value : String) (kind : Tracked)
    (owner : Owner) :
    ofOwner? (tree.update (kind.uri sceneRoot name) (·.setValue value)) sceneRoot owner =
      (ofOwner? tree sceneRoot owner).map (receive name kind value) := by
  cases made : ofOwner? tree sceneRoot owner with
  | some node =>
      obtain ⟨identifier, tags, found⟩ := ofOwner?_eq_some_iff.mp made
      apply ofOwner?_eq_some_iff.mpr
      refine ⟨?_, ?_, ?_⟩
      · rw [identifier_receive, identifier]
      · rw [tags_receive, tags]
      · intro other
        rw [Tree.find?_stream, found, Option.map_some, property_receive, identifier]
  | none =>
      have missing : (ofOwner? (tree.update (kind.uri sceneRoot name) (·.setValue value)) sceneRoot
          owner).isSome = (ofOwner? tree sceneRoot owner).isSome := by
        rw [Bool.eq_iff_iff, isSome_ofOwner?_iff, isSome_ofOwner?_iff]
        simp only [Tree.find?_stream, Option.isSome_map]
      rw [made, Option.isSome_none, Option.isSome_eq_false_iff,
        Option.isNone_iff_eq_none] at missing
      rw [missing, Option.map_none]

end Node

namespace Scene

variable {settings : Settings} {name value : String} {kind : Tracked}

/-- The owners of the scene are a matter of names and tags, so a streamed value changes their
properties at most. -/
theorem ownersOf_stream (tree : Tree) (uri sceneRoot story : String) :
    (ownersOf (tree.update uri (·.setValue value)) sceneRoot story).map
        (Owner.map Property.unvalued) =
      (ownersOf tree sceneRoot story).map (Owner.map Property.unvalued) := by
  rw [← ownersOf_map, ← ownersOf_map, Tree.unvalued_setValue]

theorem nodesOf_stream (tree : Tree)
    (other : kind.uri settings.sceneRoot name ≠ settings.storyUri) :
    nodesOf (tree.update (kind.uri settings.sceneRoot name) (·.setValue value)) settings =
      (nodesOf tree settings).map (Node.receive name kind value) := by
  rw [nodesOf, nodesOf, Tree.find?_update (Property.name_setValue value), if_neg other.symm]
  cases tree.find? settings.storyUri with
  | none => rfl
  | some story =>
      have bare : ∀ (tree' : Tree) (owners : List Owner),
          owners.filterMap (Node.ofOwner? tree' settings.sceneRoot) =
            (owners.map (Owner.map Property.unvalued)).filterMap
              (Node.ofOwner? tree' settings.sceneRoot) := by
        intro tree' owners
        simp only [List.filterMap_map, Function.comp_def, Node.ofOwner?_unvalued]
      simp only
      rw [bare, ownersOf_stream, ← bare, List.map_filterMap]
      congr 1
      funext owner
      exact Node.ofOwner?_stream tree settings.sceneRoot name value kind owner

end Scene

namespace Command

theorem starts_map {f : Property → Property} (keeps : ∀ p, (f p).uri = p.uri)
    (keepsCount : ∀ p, (f p).listeners = p.listeners) (nodes : List Node) :
    starts (nodes.map (Node.map f)) = starts nodes := by
  have image : tracked (nodes.map (Node.map f)) = (tracked nodes).map f := by
    simp only [tracked, List.flatMap_map, Node.properties_map, List.map_flatMap]
  simp only [starts, image, List.filter_map, List.map_map, Function.comp_def, keeps, keepsCount]

/-- Which requests follow is a matter of addresses and counts alone. -/
theorem reconcile_map {f : Property → Property} (keeps : ∀ p, (f p).uri = p.uri)
    (keepsCount : ∀ p, (f p).listeners = p.listeners) (previous current : List Node)
    (unsubscribeRemoved : Bool) :
    reconcile previous (current.map (Node.map f)) unsubscribeRemoved =
      reconcile previous current unsubscribeRemoved := by
  have same := addresses_map keeps current
  simp only [addresses] at same
  simp only [reconcile, removed, starts_map keeps keepsCount, same]

theorem reconcile_receive (previous current : List Node) (unsubscribeRemoved : Bool)
    (name value : String) (kind : Tracked) :
    reconcile previous (current.map (Node.receive name kind value)) unsubscribeRemoved =
      reconcile previous current unsubscribeRemoved := by
  have blind := reconcile_map Property.uri_unvalued Property.listeners_unvalued
  rw [← blind, List.map_map, Function.comp_def]
  simp only [Node.unvalued_receive]
  rw [blind]

end Command

namespace Scene

/-- The markers of all nodes of other names are those of the same nodes as before. -/
theorem markers_receive (nodes : List Node) (catalog : Catalog) (policy : Policy)
    (name value : String) (kind : Tracked) :
    (markers ⟨nodes.map (Node.receive name kind value), catalog⟩ policy).filter
        (·.identifier ≠ name) =
      (markers ⟨nodes, catalog⟩ policy).filter (·.identifier ≠ name) := by
  have others : ∀ nodes : List Node,
      (markers ⟨nodes, catalog⟩ policy).filter (·.identifier ≠ name) =
        markers ⟨nodes.filter (·.identifier ≠ name), catalog⟩ policy := by
    intro nodes
    simp only [markers, List.filter_map, List.filter_filter]
    congr 1
    apply List.filter_congr
    intro node _
    exact Bool.and_comm _ _
  rw [others, others]
  congr 2
  simp only [List.filter_map, Function.comp_def, Node.identifier_receive]
  apply List.map_congr_left ?_ |>.trans (List.map_id _)
  intro node member
  exact Node.receive_of_ne (of_decide_eq_true (List.mem_filter.mp member).2)

end Scene

namespace Watcher

/-- A streamed value touches its own node only. Whatever the tree looks like and whatever the
watcher remembers, a value for one property of the nodes of one name, other than the story, changes
no request; the nodes stay the same and in order, but for that property of those nodes; and so do
the markers of all nodes of other names. -/
theorem streamed_value_stays_in_its_node (watcher : Watcher) (service : Service)
    (name value : String) (kind : Tracked)
    (other : kind.uri watcher.settings.sceneRoot name ≠ watcher.settings.storyUri) :
    let uri := kind.uri watcher.settings.sceneRoot name
    let before := watcher.update service.snapshot
    let after := watcher.update (service.setValue uri value).snapshot
    after.2.commands = before.2.commands ∧
    List.Forall₂
      (fun node later =>
        later.identifier = node.identifier ∧ later.tags = node.tags ∧
        ∀ tracked : Tracked, later.property tracked =
          if node.identifier = name ∧ tracked = kind then (node.property tracked).setValue value
          else node.property tracked)
      before.1.displayed after.1.displayed ∧
    after.2.markers.filter (·.identifier ≠ name) =
      before.2.markers.filter (·.identifier ≠ name) := by
  intro uri before after
  have nodes : after.1.displayed = before.1.displayed.map (Node.receive name kind value) :=
    Scene.nodesOf_stream service.snapshot.tree other
  refine ⟨?_, ?_, ?_⟩
  · change Command.reconcile watcher.displayed after.1.displayed _ = _
    rw [nodes]
    exact Command.reconcile_receive watcher.displayed _ _ name value kind
  · rw [nodes, List.forall₂_map_right_iff, List.forall₂_same]
    intro node _
    exact ⟨node.identifier_receive, node.tags_receive, node.property_receive⟩
  · change (Scene.markers ⟨after.1.displayed, _⟩ _).filter _ = _
    rw [nodes]
    exact Scene.markers_receive _ _ _ name value kind

/-- Mars between two moons of one name, with properties that know nothing of where they stand. -/
def alignment : Service where
  snapshot := {
    tree := {
      subowners := [
        { identifier := "Story", properties := [{ uri := "Story.Identifier", value := "Apollo" }] },
        { identifier := "Scene", subowners := [body "Moon", body "Mars", body "Moon"] }] } }
where
  body (identifier : String) : Owner := {
    identifier
    tags := ["Apollo"]
    properties := Tracked.all.map fun kind => { uri := kind.name, value := "true" } }

theorem eclipse_of_both_moons :
    let watcher : Watcher := {}
    let uri := Tracked.visibility.uri watcher.settings.sceneRoot "Moon"
    let before := watcher.update alignment.snapshot
    let after := watcher.update (alignment.setValue uri "false").snapshot
    uri ≠ watcher.settings.storyUri ∧
      before.1.displayed.map (·.isVisible) = [true, true, true] ∧
      after.1.displayed.map (·.isVisible) = [false, true, false] ∧
      after.2.commands = before.2.commands ∧
      after.2.markers.filter (·.identifier ≠ "Moon") =
        before.2.markers.filter (·.identifier ≠ "Moon") := by
  intro watcher uri before after
  have other : uri ≠ watcher.settings.storyUri := by decide
  obtain ⟨commands, -, markers⟩ :=
    streamed_value_stays_in_its_node watcher alignment "Moon" "false" .visibility other
  exact ⟨other, by decide, by decide, commands, markers⟩

end Watcher

end StoryMarkers
