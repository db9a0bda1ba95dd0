import Mathlib.Data.List.Perm.Basic
import StoryMarkers.Proofs.Subscription.Separation
import StoryMarkers.Proofs.Subscription.Settling

set_option autoImplicit false

namespace StoryMarkers

namespace Command

/-- What is asked for is displayed, and what is given back is not. -/
theorem not_start_and_stop (previous current : List Node) (unsubscribeRemoved : Bool)
    (uri : String) :
    ¬ (.start uri ∈ reconcile previous current unsubscribeRemoved ∧
      .stop uri ∈ reconcile previous current unsubscribeRemoved) := by
  rintro ⟨asked, given⟩
  obtain ⟨p, displayed, -, rfl⟩ := start_mem_starts_iff.mp (start_mem_reconcile_iff.mp asked)
  have gone := (mem_removed_iff.mp (stop_mem_reconcile_iff.mp given).2).2
  exact gone (List.mem_map_of_mem displayed)

theorem eq_of_uri_eq {previous current : List Node} {unsubscribeRemoved : Bool}
    {first second : Command}
    (member : first ∈ reconcile previous current unsubscribeRemoved)
    (member' : second ∈ reconcile previous current unsubscribeRemoved)
    (same : first.uri = second.uri) : first = second := by
  have apart := not_start_and_stop previous current unsubscribeRemoved first.uri
  cases first with
  | start uri =>
      cases second with
      | start other => exact congrArg Command.start same
      | stop other =>
          cases same
          exact absurd ⟨member, member'⟩ apart
  | stop uri =>
      cases second with
      | start other =>
          cases same
          exact absurd ⟨member', member⟩ apart
      | stop other => exact congrArg Command.stop same

end Command

namespace Service

theorem run_comm {first second : Command} (apart : first.uri ≠ second.uri) (service : Service) :
    (service.run first).run second = (service.run second).run first :=
  @serve_comm (.listen first) (.listen second) apart service

/-- The commands of a reconciliation may be dispatched in any order. At no address is anything both
started and stopped, and the state of the service after the batch, counts, requests and all, does
not depend on the order, whatever the nodes follow and whatever the tree looks like. -/
theorem reconcile_dispatches_in_any_order (previous current : List Node)
    (unsubscribeRemoved : Bool) (service : Service) :
    let commands := Command.reconcile previous current unsubscribeRemoved
    (∀ uri, ¬ (.start uri ∈ commands ∧ .stop uri ∈ commands)) ∧
    ∀ batch : List Command, batch.Perm commands →
      service.dispatch batch = service.dispatch commands := by
  intro commands
  refine ⟨Command.not_start_and_stop previous current unsubscribeRemoved, ?_⟩
  intro batch reordered
  apply reordered.foldl_eq'
  intro first member second member' reached
  by_cases same : first.uri = second.uri
  · have equal := Command.eq_of_uri_eq (reordered.mem_iff.mp member)
      (reordered.mem_iff.mp member') same
    rw [equal]
  · exact run_comm same reached

/-- Two moons of one name are asked for twice at every address, and Mars is given back. -/
theorem moonrise_in_reverse :
    let session := Session.moonrise
    let commands := Command.reconcile session.watcher.displayed session.nodes true
    commands.reverse.Perm commands ∧ commands.length = 10 ∧
      commands.count (.start "Scene.Moon.ScreenSizeRadius") = 2 ∧
      .stop "Scene.Mars.ScreenSizeRadius" ∈ commands ∧
      session.service.dispatch commands.reverse = session.service.dispatch commands := by
  intro session commands
  have reordered : commands.reverse.Perm commands := List.reverse_perm commands
  obtain ⟨-, settled⟩ := reconcile_dispatches_in_any_order session.watcher.displayed
    session.nodes true session.service
  exact ⟨reordered, by decide, by decide, by decide, settled _ reordered⟩

end Service

end StoryMarkers
