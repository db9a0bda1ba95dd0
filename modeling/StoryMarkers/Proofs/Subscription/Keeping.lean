import Mathlib.Data.List.Induction
import StoryMarkers.Proofs.Subscription.Lifecycle

set_option autoImplicit false

namespace StoryMarkers

namespace Session

/-- Whether an event leaves the watcher in the scene, and the tree in place. -/
def Event.Stays : Event → Prop
  | .replace _ | .unmount => False
  | .refresh | .stream _ _ | .fetch _ => True

instance : (event : Event) → Decidable event.Stays
  | .replace _ | .unmount => inferInstanceAs (Decidable False)
  | .refresh | .stream _ _ | .fetch _ => inferInstanceAs (Decidable True)

/-- Whether some refresh of a run displayed an address. -/
def Showed (session : Session) (events : List Event) (uri : String) : Prop :=
  ∃ front, front ++ [.refresh] <+: events ∧ uri ∈ (session.run (front ++ [.refresh])).followed

theorem run_append (session : Session) (events : List Event) (event : Event) :
    session.run (events ++ [event]) = (session.run events).step event := by
  rw [run, run, List.foldl_append]
  rfl

theorem not_showed_nil (session : Session) (uri : String) : ¬ session.Showed [] uri := by
  rintro ⟨front, ahead, -⟩
  simp at ahead

theorem showed_append {session : Session} {events : List Event} {event : Event} {uri : String} :
    session.Showed (events ++ [event]) uri ↔
      session.Showed events uri ∨
        event = .refresh ∧ uri ∈ (session.run events).refresh.followed := by
  constructor
  · rintro ⟨front, ahead, shown⟩
    rcases List.prefix_concat_iff.mp ahead with whole | within
    · obtain ⟨same, last⟩ := List.append_inj' whole rfl
      rw [same, run_append] at shown
      exact Or.inr ⟨(List.singleton_inj.mp last).symm, shown⟩
    · exact Or.inl ⟨front, within, shown⟩
  · rintro (⟨front, within, shown⟩ | ⟨rfl, shown⟩)
    · exact ⟨front, within.trans (List.prefix_append events [event]), shown⟩
    · exact ⟨events, List.prefix_rfl, (run_append session events .refresh).symm ▸ shown⟩

/-- What is left of the events so far: the properties that were shown have one listener each and the
others none, and whatever the watcher displays was shown. -/
structure Holds (session : Session) (shown : String → Prop) : Prop where
  keeps : session.settings.unsubscribeRemoved = false
  wellFormed : session.tree.WellFormed session.settings.sceneRoot
  counted : ∀ p ∈ session.tree.allProperties,
    shown p.uri ∧ p.listeners = 1 ∨ ¬ shown p.uri ∧ p.listeners = 0
  remembered : ∀ uri ∈ session.followed, shown uri

variable {session : Session} {shown : String → Prop}

theorem Holds.congr {other : String → Prop} (holds : session.Holds shown)
    (same : ∀ uri, other uri ↔ shown uri) : session.Holds other := by
  rwa [show other = shown from funext fun uri => propext (same uri)]

theorem Holds.heardOnce (holds : session.Holds shown) : session.tree.HeardOnce :=
  fun p member => (holds.counted p member).symm.imp And.right And.right

/-- A refresh of a watcher that keeps everything only adds to what is listened to. -/
theorem Holds.refresh (holds : session.Holds shown) :
    session.refresh.Holds fun uri => shown uri ∨ uri ∈ session.refresh.followed where
  keeps := holds.keeps
  wellFormed := wellFormed_refresh holds.wellFormed
  counted := by
    intro p member
    rcases refresh_cases holds.wellFormed holds.heardOnce member with
      ⟨now, one⟩ | ⟨-, gives, -⟩ | ⟨hidden, -, q, before, same, kept⟩
    · exact Or.inl ⟨Or.inr now, one⟩
    · exact absurd (holds.keeps.symm.trans gives) Bool.false_ne_true
    · have counted := holds.counted q before
      rw [same, kept] at counted
      simpa only [hidden, or_false] using counted
  remembered := fun _ now => Or.inr now

theorem Holds.step (holds : session.Holds shown) {event : Event} (stays : event.Stays) :
    (session.step event).Holds fun uri =>
      shown uri ∨ event = .refresh ∧ uri ∈ session.refresh.followed := by
  cases event with
  | refresh => exact holds.refresh.congr fun uri => by simp
  | fetch fetched =>
      have fetched : (session.step (.fetch fetched)).Holds shown :=
        ⟨holds.keeps, holds.wellFormed, holds.counted, holds.remembered⟩
      exact fetched.congr fun uri => by simp
  | stream uri value =>
      have same := session.tree.unvalued_setValue uri value
      have streamed : (session.step (.stream uri value)).Holds shown := by
        refine ⟨holds.keeps, ?_, ?_, holds.remembered⟩
        · exact (Tree.wellFormed_congr Property.uri_unvalued same).mpr holds.wellFormed
        · exact Tree.forall_heard_setValue
            (P := fun uri count => shown uri ∧ count = 1 ∨ ¬ shown uri ∧ count = 0) |>.mpr
            holds.counted
      exact streamed.congr fun uri => by simp
  | replace tree => exact stays.elim
  | unmount => exact stays.elim

/-- After any run exactly what some refresh of it displayed has a listener. -/
theorem Holds.run (start : session.Holds fun _ => False) {events : List Event}
    (stays : ∀ event ∈ events, event.Stays) :
    (session.run events).Holds (session.Showed events) := by
  induction events using List.reverseRecOn with
  | nil => exact start.congr fun uri => iff_of_false (not_showed_nil session uri) id
  | append_singleton events event ih =>
      obtain ⟨earlier, last⟩ := List.forall_mem_append.mp stays
      rw [run_append]
      have next := (ih earlier).step (last event (List.mem_singleton_self event))
      exact next.congr fun uri => showed_append

theorem Holds.listeners_unmount (holds : session.Holds shown) {p : Property}
    (member : p ∈ session.unmount.tree.allProperties) :
    (p.listeners = 1 ↔ shown p.uri ∧ p.uri ∉ session.followed) ∧
      (p.listeners = 0 ↔ ¬ (shown p.uri ∧ p.uri ∉ session.followed)) := by
  rcases unmount_cases holds.wellFormed.toWellAddressed holds.heardOnce member with
    ⟨held, none⟩ | ⟨away, q, before, same, kept⟩
  · simp [none, held]
  · have counted := holds.counted q before
    rw [same, kept] at counted
    rcases counted with ⟨was, one⟩ | ⟨never, none⟩
    · simp [one, was, away]
    · simp [none, never]

/-- A watcher that keeps what leaves its scene leaks exactly that. It starts with nothing displayed,
on a well formed tree without listeners, and is refreshed again and again while values are streamed.
No update on the way gives anything back. A property has one listener if some refresh displayed it
and none otherwise; and once the watcher has left the scene, one if some refresh displayed it but
not the last, and none otherwise. -/
theorem run_leaks_what_left (session : Session) (events : List Event)
    (keeps : session.settings.unsubscribeRemoved = false)
    (wellFormed : session.tree.WellFormed session.settings.sceneRoot)
    (unheard : session.tree.Unheard) (empty : session.watcher.displayed = [])
    (stays : ∀ event ∈ events, event.Stays) :
    let reached := session.run events
    (∀ front, front <+: events → ∀ uri, .stop uri ∉ (session.run front).update.commands) ∧
    (∀ p ∈ reached.tree.allProperties,
      (p.listeners = 1 ↔ session.Showed events p.uri) ∧
      (p.listeners = 0 ↔ ¬ session.Showed events p.uri)) ∧
    (∀ p ∈ reached.unmount.tree.allProperties,
      (p.listeners = 1 ↔ session.Showed events p.uri ∧ p.uri ∉ reached.followed) ∧
      (p.listeners = 0 ↔ ¬ (session.Showed events p.uri ∧ p.uri ∉ reached.followed))) := by
  intro reached
  have nothing : session.followed = [] := by
    rw [followed, empty]
    rfl
  have start : session.Holds fun _ => False := by
    refine ⟨keeps, wellFormed, ?_, ?_⟩
    · exact fun p member => Or.inr ⟨not_false, unheard p member⟩
    · simp [nothing]
  have holds := start.run stays
  refine ⟨?_, ?_, fun p member => holds.listeners_unmount member⟩
  · intro front _ uri given
    rw [commands_update, settings_run, keeps, Command.stop_mem_reconcile_iff] at given
    exact Bool.false_ne_true given.1
  · intro p member
    rcases holds.counted p member with ⟨was, one⟩ | ⟨never, none⟩
    · simp [one, was]
    · simp [none, never]

/-- The moon goes and comes back. In the end it was displayed last and Mars only before, so Mars is
left behind. -/
theorem missions_leave_mars :
    let session : Session := {
      watcher := { settings := { unsubscribeRemoved := false } }
      service := { snapshot := { tree := missions "Apollo" } } }
    let events : List Event := [
      .refresh, .stream "Story.Identifier" "Viking", .refresh,
      .stream "Story.Identifier" "Apollo", .refresh]
    let reached := session.run events
    session.settings.unsubscribeRemoved = false ∧
      session.tree.WellFormed session.settings.sceneRoot ∧
      session.tree.Unheard ∧ session.watcher.displayed = [] ∧
      (∀ event ∈ events, event.Stays) ∧
      reached.unmount.tree.allProperties.map (·.listeners) = [0, 0, 0, 0, 0, 1, 1, 1, 1] ∧
      ∀ p ∈ reached.unmount.tree.allProperties,
        p.listeners = 1 ↔ session.Showed events p.uri ∧ p.uri ∉ reached.followed := by
  intro session events reached
  have wellFormed : session.tree.WellFormed session.settings.sceneRoot := by decide
  have unheard : session.tree.Unheard := by decide
  have stays : ∀ event ∈ events, event.Stays := by decide
  obtain ⟨-, -, left⟩ :=
    run_leaks_what_left session events rfl wellFormed unheard rfl stays
  exact ⟨rfl, wellFormed, unheard, rfl, stays, by decide +kernel, fun p member => (left p member).1⟩

end Session

end StoryMarkers
