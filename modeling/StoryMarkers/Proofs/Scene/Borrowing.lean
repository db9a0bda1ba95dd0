import StoryMarkers.Proofs.Scene.Derivation
import StoryMarkers.Proofs.Tree.Candidates

set_option autoImplicit false

namespace StoryMarkers

namespace Tree

/-- The owners that the name of a node may mean below the scene root, in the order of the tree. -/
def namesakes (tree : Tree) (sceneRoot name : String) : List Owner :=
  Owner.called (Uri.segments sceneRoot ++ Uri.segments name) tree.root

variable {tree : Tree} {sceneRoot name : String}

/-- What is followed of a node is the first property of the right name that a namesake has. -/
theorem find?_tracked (tree : Tree) (sceneRoot name : String) (kind : Tracked) :
    tree.find? (kind.uri sceneRoot name) =
      ((tree.namesakes sceneRoot name).flatMap (·.properties)).find? (·.answersTo kind.name) := by
  rw [find?_eq_called, Tracked.uri, Uri.owners_child kind.dotFree_name,
    Uri.name_child kind.dotFree_name, Uri.segments_child, namesakes]

/-- Names without dots mean children of the scene roots and nothing further down. -/
theorem namesakes_of_dotFree (root : Uri.DotFree sceneRoot) (clean : Uri.DotFree name) :
    tree.namesakes sceneRoot name =
      (tree.childrenOf sceneRoot).filter (·.identifier = name) := by
  rw [namesakes, Uri.segments_of_dotFree root, Uri.segments_of_dotFree clean, childrenOf,
    rootsNamed, List.filter_flatMap]
  simp only [List.singleton_append, Owner.called, List.flatMap_singleton']
  rfl

end Tree

/-- Whether some owners together have a property for each of the four names. -/
def Owner.Provide (givers : List Owner) : Prop :=
  ∀ kind ∈ Tracked.all, ∃ giver ∈ givers, ∃ p ∈ giver.properties, Uri.name p.uri = kind.name

instance (givers : List Owner) : Decidable (Owner.Provide givers) :=
  inferInstanceAs (Decidable (∀ kind ∈ Tracked.all, ∃ giver ∈ givers, ∃ p ∈ giver.properties,
    Uri.name p.uri = kind.name))

/-- A node with the names of an owner and the first properties that some owners have to give. -/
structure Node.DrawsOn (owner : Owner) (givers : List Owner) (node : Node) : Prop where
  identifier : node.identifier = owner.identifier
  tags : node.tags = owner.tags
  first : ∀ kind : Tracked,
    (givers.flatMap (·.properties)).find? (·.answersTo kind.name) = some (node.property kind)

/-- Every property of a node is one of some giver's own. -/
theorem Node.DrawsOn.exists_giver {owner : Owner} {givers : List Owner} {node : Node}
    (draws : node.DrawsOn owner givers) {p : Property} (member : p ∈ node.properties) :
    ∃ giver ∈ givers, p ∈ giver.properties := by
  obtain ⟨kind, rfl⟩ := Node.mem_properties_iff.mp member
  exact List.mem_flatMap.mp (List.mem_of_find?_eq_some (draws.first kind))

namespace Node

variable {tree : Tree} {sceneRoot : String} {owner : Owner} {node : Node}

theorem drawsOn_of_ofOwner? (made : ofOwner? tree sceneRoot owner = some node) :
    node.DrawsOn owner (tree.namesakes sceneRoot owner.identifier) := by
  obtain ⟨identifier, tags, found⟩ := ofOwner?_eq_some_iff.mp made
  refine ⟨identifier, tags, ?_⟩
  intro kind
  rw [← Tree.find?_tracked]
  exact found kind

/-- An owner has a node exactly if its namesakes together have all that is followed. -/
theorem isSome_ofOwner?_iff_provide :
    (ofOwner? tree sceneRoot owner).isSome = true ↔
      Owner.Provide (tree.namesakes sceneRoot owner.identifier) := by
  rw [isSome_ofOwner?_iff, Owner.Provide]
  simp only [Tracked.mem_all, forall_const]
  refine forall_congr' fun kind => ?_
  rw [Tree.find?_tracked, List.find?_isSome]
  constructor
  · rintro ⟨p, member, fits⟩
    obtain ⟨giver, called, own⟩ := List.mem_flatMap.mp member
    exact ⟨giver, called, p, own, of_decide_eq_true fits⟩
  · rintro ⟨giver, called, p, own, fits⟩
    exact ⟨p, List.mem_flatMap.mpr ⟨giver, called, own⟩, decide_eq_true fits⟩

end Node

namespace Scene

/-- Whether a child of a scene root is shown: a tag contains the story, and its namesakes together
have all that is followed. -/
def Shown (tree : Tree) (sceneRoot story : String) (owner : Owner) : Prop :=
  (∃ tag ∈ owner.tags, story.toList <:+: tag.toList) ∧
    Owner.Provide (tree.namesakes sceneRoot owner.identifier)

instance (tree : Tree) (sceneRoot story : String) (owner : Owner) :
    Decidable (Shown tree sceneRoot story owner) :=
  inferInstanceAs (Decidable ((∃ tag ∈ owner.tags, story.toList <:+: tag.toList) ∧
    Owner.Provide (tree.namesakes sceneRoot owner.identifier)))

/-- The nodes of a story stand for the children that are shown. -/
theorem forall₂_drawsOn {tree : Tree} {settings : Settings} {story : Property}
    (found : tree.find? settings.storyUri = some story) :
    List.Forall₂
      (fun owner node =>
        Node.DrawsOn owner (tree.namesakes settings.sceneRoot owner.identifier) node)
      ((tree.childrenOf settings.sceneRoot).filter
        (Shown tree settings.sceneRoot story.value ·))
      (nodesOf tree settings) := by
  have split : (tree.childrenOf settings.sceneRoot).filter
        (Shown tree settings.sceneRoot story.value ·) =
      (ownersOf tree settings.sceneRoot story.value).filter fun owner =>
        Owner.Provide (tree.namesakes settings.sceneRoot owner.identifier) := by
    rw [ownersOf, List.filter_filter]
    apply List.filter_congr
    intro owner _
    rw [Bool.eq_iff_iff, Bool.and_eq_true, decide_eq_true_iff, decide_eq_true_iff,
      Owner.hasTag_iff]
    exact and_comm
  rw [split, nodesOf, found]
  apply forall₂_filterMap
  · intro owner _
    rw [Bool.eq_iff_iff, Node.isSome_ofOwner?_iff_provide, decide_eq_true_iff]
  · intro owner _ node made
    exact Node.drawsOn_of_ofOwner? made

/-- Every node stands for a child of a scene root, with its name and its tags, but its properties
are those that the namesakes of the child have to give: for each name the first there is, in the
order of the tree. So a child is shown if its namesakes together have what it lacks, and what it is
shown with may belong to several of them. Names without dots mean the children of scene roots, so
there the properties are the child's own if no other child has its name. -/
theorem nodes_draw_on_namesakes (snapshot : Snapshot) (settings : Settings) :
    let tree := snapshot.tree
    let children := tree.childrenOf settings.sceneRoot
    let nodes := (Scene.ofSnapshot snapshot settings).nodes
    (tree.find? settings.storyUri = none → nodes = []) ∧
    (∀ story, tree.find? settings.storyUri = some story →
      List.Forall₂
        (fun owner node =>
          Node.DrawsOn owner (tree.namesakes settings.sceneRoot owner.identifier) node)
        (children.filter (Shown tree settings.sceneRoot story.value ·)) nodes) ∧
    (∀ owner givers (node : Node), node.DrawsOn owner givers →
      ∀ p ∈ node.properties, ∃ giver ∈ givers, p ∈ giver.properties) ∧
    (∀ name, Uri.DotFree settings.sceneRoot → Uri.DotFree name →
      tree.namesakes settings.sceneRoot name = children.filter (·.identifier = name)) ∧
    ∀ owner (node : Node), Uri.DotFree settings.sceneRoot → Uri.DotFree owner.identifier →
      children.filter (·.identifier = owner.identifier) = [owner] →
      node.DrawsOn owner (tree.namesakes settings.sceneRoot owner.identifier) →
      ∀ p ∈ node.properties, p ∈ owner.properties := by
  intro tree children nodes
  refine ⟨?_, fun story => forall₂_drawsOn, fun owner givers node draws p => draws.exists_giver,
    fun name root clean => Tree.namesakes_of_dotFree root clean, ?_⟩
  · intro absent
    change nodesOf snapshot.tree settings = []
    rw [nodesOf, absent]
  · intro owner node root clean only draws p member
    rw [Tree.namesakes_of_dotFree root clean] at draws
    obtain ⟨giver, among, own⟩ := draws.exists_giver member
    rw [show (tree.childrenOf settings.sceneRoot).filter (·.identifier = owner.identifier) =
      [owner] from only, List.mem_singleton] at among
    exact among ▸ own

/-- The earth with all of its properties. -/
def wholeEarth : Owner where
  identifier := "Earth"
  tags := ["story_sky"]
  properties := Tracked.all.map fun kind => { uri := kind.uri "Scene" "Earth", value := "true" }

/-- Beside the earth two moons of one name with two properties each, and a base with none whose name
leads into one of them. -/
def halfMoons : Snapshot where
  tree := {
    subowners := [
      { identifier := "Story", properties := [{ uri := "Story.Identifier", value := "sky" }] },
      { identifier := "Scene"
        subowners := [
          { identifier := "Moon"
            tags := ["near_sky"]
            properties := [property .position "Moon", property .visibility "Moon"] },
          { identifier := "Moon"
            tags := ["far_sky"]
            subowners := [
              { identifier := "Base", properties := Tracked.all.map (property · "Moon.Base") }]
            properties := [property .distance "Moon", property .radius "Moon"] },
          { identifier := "Moon.Base", tags := ["story_sky"] },
          wholeEarth] }] }
where
  property (kind : Tracked) (node : String) : Property :=
    { uri := kind.uri "Scene" node, value := "true" }

/-- No child but the earth has all four properties, and still all of them are shown. -/
theorem halves_shown_as_whole_moons :
    let settings : Settings := {}
    let children := halfMoons.tree.childrenOf settings.sceneRoot
    let nodes := (Scene.ofSnapshot halfMoons settings).nodes
    (children.filter (·.OwnsTracked settings.sceneRoot)).map (·.identifier) = ["Earth"] ∧
      nodes.map (·.identifier) = ["Moon", "Moon", "Moon.Base", "Earth"] ∧
      ¬ ∀ node ∈ nodes, ∃ owner ∈ children, node.identifier = owner.identifier ∧
        node.tags = owner.tags ∧ ∀ p ∈ node.properties, p ∈ owner.properties := by
  decide +kernel

theorem half_moons_draw_on_each_other :
    let settings : Settings := {}
    let story : Property := { uri := "Story.Identifier", value := "sky" }
    let tree := halfMoons.tree
    let children := tree.childrenOf settings.sceneRoot
    let nodes := (Scene.ofSnapshot halfMoons settings).nodes
    tree.find? settings.storyUri = some story ∧
      List.Forall₂
        (fun owner node =>
          Node.DrawsOn owner (tree.namesakes settings.sceneRoot owner.identifier) node)
        (children.filter (Shown tree settings.sceneRoot story.value ·)) nodes ∧
      (tree.namesakes settings.sceneRoot "Moon").map (·.tags) = [["near_sky"], ["far_sky"]] ∧
      ∀ node : Node, node.DrawsOn wholeEarth (tree.namesakes settings.sceneRoot "Earth") →
        ∀ p ∈ node.properties, p ∈ wholeEarth.properties := by
  intro settings story tree children nodes
  have found : tree.find? settings.storyUri = some story := by decide +kernel
  have root : Uri.DotFree settings.sceneRoot := by decide
  have moon : children.filter (·.identifier = "Moon") = children.take 2 := rfl
  have earth : children.filter (·.identifier = "Earth") = [wholeEarth] := rfl
  obtain ⟨-, stand, -, called, own⟩ := nodes_draw_on_namesakes halfMoons settings
  refine ⟨found, stand story found, ?_, fun node => own wholeEarth node root (by decide) earth⟩
  rw [called "Moon" root (by decide)]
  exact congrArg (List.map (·.tags)) moon

end Scene

end StoryMarkers
