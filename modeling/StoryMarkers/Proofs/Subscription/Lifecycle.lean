import StoryMarkers.Proofs.Subscription.Counting
import StoryMarkers.Proofs.Subscription.Exchange

set_option autoImplicit false

namespace StoryMarkers

namespace Session

/-- What can happen to a session. -/
inductive Event where
  | refresh
  | stream (uri value : String)
  | fetch (fetched : List Fetched)
  | replace (tree : Tree)
  | unmount

/-- Whether a tree that an event brings is well formed and nobody listens to it. -/
def Event.Fresh (sceneRoot : String) : Event → Prop
  | .replace tree => tree.WellFormed sceneRoot ∧ tree.Unheard
  | _ => True

instance (sceneRoot : String) : (event : Event) → Decidable (event.Fresh sceneRoot)
  | .replace tree => inferInstanceAs (Decidable (tree.WellFormed sceneRoot ∧ tree.Unheard))
  | .refresh | .stream _ _ | .fetch _ | .unmount => inferInstanceAs (Decidable True)

def step (session : Session) : Event → Session
  | .refresh => session.refresh
  | .stream uri value => { session with service := session.service.setValue uri value }
  | .fetch fetched => { session with service := session.service.setFetched fetched }
  | .replace tree => { session with service := session.service.replaceTree tree }
  | .unmount => session.unmount

def run (session : Session) (events : List Event) : Session := events.foldl step session

/-- Whether the watcher displays the address of a property. -/
def Displays (session : Session) (p : Property) : Prop :=
  ∃ node ∈ session.watcher.displayed, ∃ kind, (node.property kind).uri = p.uri

theorem displays_iff {session : Session} {p : Property} :
    session.Displays p ↔ p.uri ∈ session.followed :=
  Command.mem_addresses_iff.symm

/-- What every event keeps: the tree is well formed, and nobody is listened to but once and for the
watcher's sake. -/
structure Sound (session : Session) : Prop where
  unsubscribes : session.settings.unsubscribeRemoved = true
  wellFormed : session.tree.WellFormed session.settings.sceneRoot
  heard : session.tree.HeardWithin session.followed

variable {session : Session}

/-- Right after a refresh a property is listened to once if it is displayed, and not at all
otherwise. -/
theorem Sound.listeners_refresh (sound : session.Sound) {p : Property}
    (member : p ∈ session.refresh.tree.allProperties) :
    p.listeners = if p.uri ∈ session.refresh.followed then 1 else 0 := by
  rcases refresh_cases sound.wellFormed sound.heard.heardOnce member with
    ⟨shown, one⟩ | ⟨hidden, -, -, none⟩ | ⟨hidden, away, q, before, same, kept⟩
  · rw [if_pos shown, one]
  · rw [if_neg hidden, none]
  -- A listener that is left alone here would be there for what was displayed before.
  · rw [if_neg hidden, ← kept]
    rcases sound.heard q before with none | ⟨-, held⟩
    · exact none
    · exact absurd (same ▸ held) (away sound.unsubscribes)

/-- Right after the watcher has left the scene nobody is listened to. -/
theorem Sound.unheard_unmount (sound : session.Sound) : session.unmount.tree.Unheard := by
  intro p member
  rcases unmount_cases sound.wellFormed.toWellAddressed sound.heard.heardOnce member with
    ⟨-, none⟩ | ⟨away, q, before, same, kept⟩
  · exact none
  · rw [← kept]
    rcases sound.heard q before with none | ⟨-, held⟩
    · exact none
    · exact absurd (same ▸ held) away

theorem Sound.refresh (sound : session.Sound) : session.refresh.Sound where
  unsubscribes := sound.unsubscribes
  wellFormed := wellFormed_refresh sound.wellFormed
  heard := by
    intro p member
    have count := sound.listeners_refresh member
    by_cases shown : p.uri ∈ session.refresh.followed
    · rw [if_pos shown] at count
      exact Or.inr ⟨count, shown⟩
    · rw [if_neg shown] at count
      exact Or.inl count

theorem Sound.unmount (sound : session.Sound) : session.unmount.Sound where
  unsubscribes := sound.unsubscribes
  wellFormed := wellFormed_unmount sound.wellFormed
  heard := sound.unheard_unmount.heardWithin _

theorem Sound.step (sound : session.Sound) {event : Event}
    (fresh : event.Fresh session.settings.sceneRoot) : (session.step event).Sound := by
  cases event with
  | refresh => exact sound.refresh
  | unmount => exact sound.unmount
  | fetch fetched => exact ⟨sound.unsubscribes, sound.wellFormed, sound.heard⟩
  | stream uri value =>
      have same := session.tree.unvalued_setValue uri value
      exact ⟨sound.unsubscribes,
        (Tree.wellFormed_congr Property.uri_unvalued same).mpr sound.wellFormed,
        Tree.heardWithin_setValue.mpr sound.heard⟩
  | replace tree =>
      obtain ⟨well, unheard⟩ := fresh
      have same := Service.uncounted_carry tree session.tree.allProperties
      exact ⟨sound.unsubscribes,
        (Tree.wellFormed_congr Property.uri_uncounted same).mpr well,
        Service.heardWithin_carry well.toWellAddressed (unheard.heardWithin _) sound.heard⟩

theorem settings_step (session : Session) (event : Event) :
    (session.step event).settings = session.settings := by
  cases event <;> rfl

theorem settings_run (session : Session) (events : List Event) :
    (session.run events).settings = session.settings := by
  induction events generalizing session with
  | nil => rfl
  | cons event events ih => exact (ih (session.step event)).trans (settings_step session event)

theorem Sound.run (sound : session.Sound) {events : List Event}
    (fresh : ∀ event ∈ events, event.Fresh session.settings.sceneRoot) :
    (session.run events).Sound := by
  induction events generalizing session with
  | nil => exact sound
  | cons event events ih =>
      obtain ⟨here, later⟩ := List.forall_mem_cons.mp fresh
      rw [← settings_step session event] at later
      exact ih (sound.step here) later

/-- After a refresh the watcher displays what the tree has for it. -/
theorem Sound.displays_refresh_iff (sound : session.Sound) {p : Property}
    (member : p ∈ session.refresh.tree.allProperties) :
    session.refresh.Displays p ↔ p ∈ Command.tracked session.refresh.nodes := by
  have well := sound.refresh.wellFormed.toWellAddressed
  rw [displays_iff, ← addresses_nodes_refresh, Command.addresses, List.mem_map]
  constructor
  · rintro ⟨q, followed, same⟩
    have found := Scene.find?_of_mem_tracked (Scene.addressed_nodesOf well) followed
    rw [same, well.find?_of_mem member] at found
    rwa [Option.some.inj found]
  · intro followed
    exact ⟨p, followed, rfl⟩

/-- No subscription is leaked or doubled, whatever happens in whatever order. The watcher gives back
what leaves the scene, and starts, whatever it displayed before, on a well formed tree that nobody
listens to. Then no property ever has more than one listener, and one only if it is displayed. Right
after a refresh it has one exactly if it is displayed, and what is displayed is what the tree has
for the story. Once the watcher has left the scene no property has a listener. -/
theorem run_leaks_nothing (session : Session) (events : List Event)
    (unsubscribes : session.settings.unsubscribeRemoved = true)
    (wellFormed : session.tree.WellFormed session.settings.sceneRoot)
    (unheard : session.tree.Unheard)
    (fresh : ∀ event ∈ events, event.Fresh session.settings.sceneRoot) :
    let reached := session.run events
    (∀ p ∈ reached.tree.allProperties,
      p.listeners ≤ 1 ∧ (p.listeners = 1 → reached.Displays p)) ∧
    (∀ p ∈ reached.refresh.tree.allProperties,
      (p.listeners = 1 ↔ reached.refresh.Displays p) ∧
      (reached.refresh.Displays p ↔ p ∈ Command.tracked reached.refresh.nodes)) ∧
    (∀ p ∈ reached.unmount.tree.allProperties, p.listeners = 0) := by
  intro reached
  have start : session.Sound := ⟨unsubscribes, wellFormed, unheard.heardWithin _⟩
  have sound : reached.Sound := start.run fresh
  refine ⟨?_, ?_, sound.unheard_unmount⟩
  · intro p member
    rw [displays_iff]
    rcases sound.heard p member with none | ⟨one, held⟩
    · simp [none]
    · simp [one, held]
  · intro p member
    refine ⟨?_, sound.displays_refresh_iff member⟩
    have count := sound.listeners_refresh member
    rw [displays_iff, count]
    by_cases shown : p.uri ∈ reached.refresh.followed
    · simp [shown]
    · simp [shown]

/-- A story, and a node for each of two stories. -/
def missions (story : String) : Tree where
  subowners := [
    { identifier := "Story", properties := [{ uri := "Story.Identifier", value := story }] },
    { identifier := "Scene", subowners := [node "Moon" "Apollo", node "Mars" "Viking"] }]
where
  node (identifier tag : String) : Owner := {
    identifier
    tags := [tag]
    properties := Tracked.all.map fun kind => { uri := kind.uri "Scene" identifier, value := "" } }

theorem missions_leak_nothing :
    let session : Session := { service := { snapshot := { tree := missions "Apollo" } } }
    let events : List Event :=
      [.refresh, .stream "Story.Identifier" "Viking", .replace (missions "Viking")]
    session.settings.unsubscribeRemoved = true ∧
      session.tree.WellFormed session.settings.sceneRoot ∧
      session.tree.Unheard ∧
      (∀ event ∈ events, event.Fresh session.settings.sceneRoot) ∧
      (session.run events).tree.allProperties.map (·.listeners) = [0, 1, 1, 1, 1, 0, 0, 0, 0] ∧
      ∀ p ∈ (session.run events).unmount.tree.allProperties, p.listeners = 0 := by
  intro session events
  have wellFormed : session.tree.WellFormed session.settings.sceneRoot := by decide
  have unheard : session.tree.Unheard := by decide
  have fresh : ∀ event ∈ events, event.Fresh session.settings.sceneRoot := by decide
  obtain ⟨-, -, released⟩ := run_leaks_nothing session events rfl wellFormed unheard fresh
  exact ⟨rfl, wellFormed, unheard, fresh, by decide, released⟩

end Session

end StoryMarkers
