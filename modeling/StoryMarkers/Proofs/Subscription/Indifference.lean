import Mathlib.Data.List.Forall2
import StoryMarkers.Proofs.Subscription.Session

set_option autoImplicit false

namespace StoryMarkers

namespace Command

def isStart : Command → Bool
  | .start _ => true
  | .stop _ => false

theorem filter_isStart_reconcile (previous current : List Node) (unsubscribeRemoved : Bool) :
    (reconcile previous current unsubscribeRemoved).filter (·.isStart) = starts current := by
  have asked : (starts current).filter (·.isStart) = starts current := by
    rw [List.filter_eq_self]
    intro command member
    obtain ⟨p, -, rfl⟩ := List.mem_map.mp member
    rfl
  rw [reconcile, List.filter_append, asked]
  cases unsubscribeRemoved <;> simp [isStart]

theorem filter_not_isStart_reconcile (previous current : List Node) (unsubscribeRemoved : Bool) :
    (reconcile previous current unsubscribeRemoved).filter (!·.isStart) =
      if unsubscribeRemoved then (removed previous current).map .stop else [] := by
  have asked : (starts current).filter (!·.isStart) = [] := by
    rw [List.filter_eq_nil_iff]
    intro command member
    obtain ⟨p, -, rfl⟩ := List.mem_map.mp member
    simp [isStart]
  rw [reconcile, List.filter_append, asked, List.nil_append]
  cases unsubscribeRemoved <;> simp [isStart]

/-- What is given back is a matter of addresses alone. -/
theorem removed_congr (previous : List Node) {current other : List Node}
    (same : addresses current = addresses other) :
    removed previous current = removed previous other := by
  rw [addresses, addresses] at same
  rw [removed, removed, same]

theorem starts_cons (node : Node) (nodes : List Node) :
    starts (node :: nodes) =
      ((Tracked.all.filter fun kind => (node.property kind).listeners = 0).map fun kind =>
        .start (node.property kind).uri) ++ starts nodes := by
  simp only [starts, tracked, List.flatMap_cons, List.filter_append, List.map_append,
    Node.properties, List.filter_map, List.map_map]
  rfl

/-- Two lists of nodes at the same addresses ask for the same, in the same order, at all addresses
at which they agree whether anybody listens. -/
theorem filter_starts_congr (among : String → Bool) {current other : List Node}
    (agree : List.Forall₂ (fun node later => ∀ kind : Tracked,
      (later.property kind).uri = (node.property kind).uri ∧
        (among (node.property kind).uri →
          ((later.property kind).listeners = 0 ↔ (node.property kind).listeners = 0)))
      current other) :
    (starts other).filter (among ·.uri) = (starts current).filter (among ·.uri) := by
  induction agree with
  | nil => rfl
  | @cons node later nodes rest here _ ih =>
      have spelled : ∀ kind : Tracked,
          (later.property kind).uri = (node.property kind).uri := fun kind => (here kind).1
      rw [starts_cons, starts_cons, List.filter_append, List.filter_append, ih]
      simp only [spelled, List.filter_map, List.filter_filter, Function.comp_def, uri]
      congr 2
      apply List.filter_congr
      intro kind _
      by_cases inside : among (node.property kind).uri = true
      · simp only [inside, (here kind).2 inside, Bool.true_and]
      · simp only [inside, Bool.false_and]

end Command

namespace Service

/-- Whether at one of the addresses that nodes of the scene are made from somebody has come to
listen, or nobody does any longer, and the property found there has the given address. -/
def Turned (settings : Settings) (before after : Service) (uri : String) : Prop :=
  ∃ node ∈ Scene.nodesOf before.snapshot.tree settings, ∃ kind ∈ Tracked.all,
    (node.property kind).uri = uri ∧
      ¬ (before.listeners? (kind.uri settings.sceneRoot node.identifier) = some 0 ↔
        after.listeners? (kind.uri settings.sceneRoot node.identifier) = some 0)

instance (settings : Settings) (before after : Service) (uri : String) :
    Decidable (Turned settings before after uri) :=
  inferInstanceAs (Decidable (∃ _ ∈ _, ∃ _ ∈ _, _ ∧ ¬ (_ ↔ _)))

theorem listeners?_of_find? {service : Service} {uri : String} {p : Property}
    (found : service.snapshot.tree.find? uri = some p) :
    service.listeners? uri = some p.listeners := by
  rw [listeners?, found, Option.map_some]

end Service

namespace Scene

variable {tree other : Tree} {settings : Settings}

/-- Trees that differ in counts alone have nodes that differ in counts alone, each found at the same
addresses. -/
theorem forall₂_nodesOf_uncounted
    (same : tree.map Property.uncounted = other.map Property.uncounted) :
    List.Forall₂
      (fun node later => node ∈ nodesOf tree settings ∧ ∀ kind : Tracked,
        (later.property kind).uri = (node.property kind).uri ∧
        tree.find? (kind.uri settings.sceneRoot node.identifier) = some (node.property kind) ∧
        other.find? (kind.uri settings.sceneRoot node.identifier) = some (later.property kind))
      (nodesOf tree settings) (nodesOf other settings) := by
  have images : List.Forall₂
      (fun node later => node.map Property.uncounted = later.map Property.uncounted)
      (nodesOf tree settings) (nodesOf other settings) := by
    rw [← List.forall₂_map_right_iff (f := Node.map Property.uncounted),
      ← List.forall₂_map_left_iff (f := Node.map Property.uncounted), List.forall₂_eq_eq_eq]
    exact nodesOf_congr same settings
  rw [List.forall₂_iff_zip] at images ⊢
  refine ⟨images.1, ?_⟩
  intro node later paired
  obtain ⟨member, member'⟩ := List.of_mem_zip paired
  have image := images.2 paired
  have identifier := congrArg Node.identifier image
  change node.identifier = later.identifier at identifier
  refine ⟨member, fun kind => ⟨?_, find?_of_mem_nodesOf member kind, ?_⟩⟩
  · have properties := congrArg (fun node => (Node.property node kind).uri) image
    cases kind <;> exact properties.symm
  · rw [identifier]
    exact find?_of_mem_nodesOf member' kind

end Scene

namespace Watcher

/-- What is shown does not depend on who listens. Whatever the tree looks like and whatever anybody
asks for in between, the catalog, the nodes up to their counts, and the markers are the same before
and after. A watcher gives back the same in both cases, and asks for the same except where somebody
has come to listen or nobody does any longer. -/
theorem requests_leave_scene (watcher : Watcher) (service : Service) (requests : List Command) :
    let served := service.dispatch requests
    let scene := Scene.ofSnapshot service.snapshot watcher.settings
    let later := Scene.ofSnapshot served.snapshot watcher.settings
    let update := (watcher.update service.snapshot).2
    let updateLater := (watcher.update served.snapshot).2
    later.catalog = scene.catalog ∧
    later.nodes.map (Node.map Property.uncounted) =
      scene.nodes.map (Node.map Property.uncounted) ∧
    updateLater.markers = update.markers ∧
    updateLater.commands.filter (!·.isStart) = update.commands.filter (!·.isStart) ∧
    (updateLater.commands.filter (·.isStart)).filter
        (fun command => ¬ Service.Turned watcher.settings service served command.uri) =
      (update.commands.filter (·.isStart)).filter
        (fun command => ¬ Service.Turned watcher.settings service served command.uri) := by
  intro served scene later update updateLater
  have same : served.snapshot.tree.map Property.uncounted =
      service.snapshot.tree.map Property.uncounted :=
    service.map_dispatch requests Property.uncounted_change
  have fetched : served.snapshot.fetched = service.snapshot.fetched :=
    service.fetched_dispatch requests
  have catalog : later.catalog = scene.catalog :=
    congrArg (Catalog.ofFetched · watcher.settings.infoIconKey) fetched
  refine ⟨catalog, Scene.nodesOf_congr same watcher.settings, ?_, ?_, ?_⟩
  · change Scene.markers ⟨later.nodes, later.catalog⟩ _ = Scene.markers ⟨scene.nodes, _⟩ _
    rw [catalog]
    exact Scene.markers_congr same watcher.settings _ _
  · have addresses := Scene.addresses_congr same watcher.settings
    rw [watcher.commands_update, watcher.commands_update, Command.filter_not_isStart_reconcile,
      Command.filter_not_isStart_reconcile, Command.removed_congr watcher.displayed addresses]
  · rw [watcher.commands_update, watcher.commands_update, Command.filter_isStart_reconcile,
      Command.filter_isStart_reconcile]
    apply Command.filter_starts_congr fun uri =>
      ¬ Service.Turned watcher.settings service served uri
    refine (Scene.forall₂_nodesOf_uncounted same.symm).imp ?_
    rintro node after ⟨member, found⟩ kind
    obtain ⟨spelled, before, now⟩ := found kind
    refine ⟨spelled, ?_⟩
    intro steady
    have idle : service.listeners? (kind.uri watcher.settings.sceneRoot node.identifier) = some 0 ↔
        served.listeners? (kind.uri watcher.settings.sceneRoot node.identifier) = some 0 := by
      by_contra turned
      exact of_decide_eq_true steady ⟨node, member, kind, kind.mem_all, rfl, turned⟩
    rw [Service.listeners?_of_find? before, Service.listeners?_of_find? now, Option.some.injEq,
      Option.some.injEq] at idle
    exact idle.symm

end Watcher

end StoryMarkers
