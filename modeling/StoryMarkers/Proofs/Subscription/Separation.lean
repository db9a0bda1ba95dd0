import StoryMarkers.Proofs.Scene.Nodes
import StoryMarkers.Proofs.Subscription.Requests
import StoryMarkers.Proofs.Tree.Commuting

set_option autoImplicit false

namespace StoryMarkers.Service

theorem serve_eq (service : Service) (request : Request) :
    (service.serve request).1 =
      { service.update request.uri request.change with
        requests := service.requests + if request.isListen then 1 else 0 } := by
  cases request with
  | listen command => cases command <;> rfl
  | stream uri value => rfl

/-- Requests for different addresses commute, known or unknown. -/
theorem serve_comm {first second : Request} (apart : first.uri ≠ second.uri) (service : Service) :
    ((service.serve first).1.serve second).1 = ((service.serve second).1.serve first).1 := by
  have trees := Tree.update_comm first.name_change second.name_change apart service.snapshot.tree
  have counts (a b : Nat) : service.requests + a + b = service.requests + b + a :=
    Nat.add_right_comm service.requests a b
  simp only [serve_eq, update, trees, counts]

/-- What a request is answered does not depend on what was asked for before. -/
theorem answer_serve (service : Service) (first second : Request) :
    ((service.serve first).1.serve second).2 = (service.serve second).2 := by
  cases second with
  | listen command => rfl
  | stream uri value =>
      have led := Tree.slot?_update first.name_change service.snapshot.tree first.uri uri
      rw [serve, serve, knows, knows, tree_serve, led]

/-- No tree confuses two addresses, whatever its owners and properties are called. If two addresses
both lead somewhere they lead to different slots, and so do those of two kinds of a node, or of two
nodes, below one root. Hence the service does the same and answers the same, whichever of two
requests for different addresses comes first. -/
theorem different_addresses_are_independent :
    (∀ (tree : Tree) (uri other : String) (slot slot' : Slot), uri ≠ other →
      tree.slot? uri = some slot → tree.slot? other = some slot' → slot ≠ slot') ∧
    (∀ (service : Service) (first second : Request), first.uri ≠ second.uri →
      ((service.serve first).1.serve second).1 = ((service.serve second).1.serve first).1 ∧
      ((service.serve first).1.serve second).2 = (service.serve second).2 ∧
      ((service.serve second).1.serve first).2 = (service.serve first).2) ∧
    ∀ (tree : Tree) (sceneRoot node node' : String) (kind kind' : Tracked) (slot slot' : Slot),
      (node, kind) ≠ (node', kind') →
      tree.slot? (kind.uri sceneRoot node) = some slot →
      tree.slot? (kind'.uri sceneRoot node') = some slot' → slot ≠ slot' := by
  have apart (tree : Tree) (uri other : String) (slot slot' : Slot) (different : uri ≠ other)
      (found : tree.slot? uri = some slot) (found' : tree.slot? other = some slot') :
      slot ≠ slot' := by
    rintro rfl
    exact different (Tree.slot?_injective found found')
  refine ⟨apart, ?_, ?_⟩
  · intro service first second different
    exact ⟨serve_comm different service, answer_serve service first second,
      answer_serve service second first⟩
  · intro tree sceneRoot node node' kind kind' slot slot' different
    apply apart
    intro same
    obtain ⟨rfl, rfl⟩ := Tracked.uri_inj same
    exact different rfl

/-- Mars and a moon inside it, which a name with a dot leads to. Both radii are called the same. -/
theorem mars_and_its_moon :
    let radius : Property := { uri := "ScreenSizeRadius", value := "7" }
    let tree : Tree := {
      subowners := [
        { identifier := "Scene"
          subowners := [
            { identifier := "Mars"
              subowners := [{ identifier := "Moon", properties := [radius] }]
              properties := [radius] }] }] }
    let service : Service := { snapshot := { tree } }
    let first : Request := .listen (.start (Tracked.radius.uri "Scene" "Mars"))
    let second : Request := .stream (Tracked.radius.uri "Scene" "Mars.Moon") "3"
    (tree.slot? first.uri = some ⟨[0, 0], 0⟩ ∧ tree.slot? second.uri = some ⟨[0, 0, 0], 0⟩ ∧
      (⟨[0, 0], 0⟩ : Slot) ≠ ⟨[0, 0, 0], 0⟩) ∧
    first.uri ≠ second.uri ∧
      ((service.serve first).1.serve second).1 = ((service.serve second).1.serve first).1 := by
  intro radius tree service first second
  obtain ⟨-, commute, distinct⟩ := different_addresses_are_independent
  have found : tree.slot? first.uri = some ⟨[0, 0], 0⟩ := by decide
  have found' : tree.slot? second.uri = some ⟨[0, 0, 0], 0⟩ := by decide
  have different : first.uri ≠ second.uri := by decide
  exact ⟨⟨found, found', distinct tree "Scene" "Mars" "Mars.Moon" .radius .radius _ _ (by decide)
    found found'⟩, different, (commute service first second different).1⟩

end StoryMarkers.Service
