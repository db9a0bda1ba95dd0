import Mathlib.Logic.Function.Basic
import StoryMarkers.Proofs.Subscription.Lifecycle

set_option autoImplicit false

namespace StoryMarkers

/-- Watchers, as many as there are names for them, and the service that they share. -/
structure Audience (ι : Type*) where
  watchers : ι → Watcher
  service : Service

namespace Audience

variable {ι : Type*}

def tree (audience : Audience ι) : Tree := audience.service.snapshot.tree

/-- One of the watchers on the service. -/
def session (audience : Audience ι) (i : ι) : Session := ⟨audience.watchers i, audience.service⟩

/-- What can happen to an audience. -/
inductive Event (ι : Type*) where
  | refresh (i : ι)
  | unmount (i : ι)
  | stream (uri value : String)

/-- Whether a count at an address is in order: none, or one as long as some watcher displays it. -/
def Fits (audience : Audience ι) (uri : String) (count : UInt32) : Prop :=
  count = 0 ∨ count = 1 ∧ ∃ i, uri ∈ (audience.session i).followed

/-- What every event keeps: the tree is well formed for every watcher, and no property has more than
one listener, and one only if some watcher displays it. -/
structure Sound (audience : Audience ι) : Prop where
  unsubscribes : ∀ i, (audience.watchers i).settings.unsubscribeRemoved = true
  wellFormed : ∀ i, audience.tree.WellFormed (audience.watchers i).settings.sceneRoot
  heard : ∀ p ∈ audience.tree.allProperties, audience.Fits p.uri p.listeners

variable {audience : Audience ι}

theorem Sound.wellFormed_session (sound : audience.Sound) (i : ι) :
    (audience.session i).tree.WellFormed (audience.session i).settings.sceneRoot :=
  sound.wellFormed i

theorem Sound.heardOnce (sound : audience.Sound) : audience.tree.HeardOnce :=
  fun p member => (sound.heard p member).imp_right And.left

/-- Right after a refresh everything that the watcher displays has one listener, whoever has
released it before. -/
theorem Sound.listeners_refresh (sound : audience.Sound) (i : ι) {p : Property}
    (member : p ∈ (audience.session i).refresh.tree.allProperties)
    (shown : p.uri ∈ (audience.session i).refresh.followed) : p.listeners = 1 := by
  rcases Session.refresh_cases (sound.wellFormed_session i) sound.heardOnce member with
    ⟨-, one⟩ | ⟨hidden, -⟩ | ⟨hidden, -⟩
  · exact one
  · exact absurd shown hidden
  · exact absurd shown hidden

theorem Sound.unheard (sound : audience.Sound)
    (away : ∀ i, (audience.watchers i).displayed = []) : audience.tree.Unheard := by
  intro p member
  rcases sound.heard p member with none | ⟨-, i, held⟩
  · exact none
  · have nothing : (audience.session i).followed = [] := by
      rw [Session.followed, Audience.session, away i]
      rfl
    rw [nothing] at held
    cases held

variable [DecidableEq ι]

/-- The audience once one watcher has been at work on the service. -/
def after (audience : Audience ι) (i : ι) (session : Session) : Audience ι where
  watchers := Function.update audience.watchers i session.watcher
  service := session.service

def step (audience : Audience ι) : Event ι → Audience ι
  | .refresh i => audience.after i (audience.session i).refresh
  | .unmount i => audience.after i (audience.session i).unmount
  | .stream uri value => { audience with service := audience.service.setValue uri value }

def run (audience : Audience ι) (events : List (Event ι)) : Audience ι :=
  events.foldl step audience

theorem tree_after (audience : Audience ι) (i : ι) (session : Session) :
    (audience.after i session).tree = session.tree := rfl

@[simp] theorem session_after_self (audience : Audience ι) (i : ι) (session : Session) :
    (audience.after i session).session i = session := by
  simp only [Audience.session, after, Function.update_self]

/-- The other watchers display what they displayed. -/
theorem followed_after_of_ne (audience : Audience ι) {i j : ι} (other : j ≠ i)
    (session : Session) :
    ((audience.after i session).session j).followed = (audience.session j).followed := by
  simp only [Session.followed, Audience.session, after, Function.update_of_ne other]

theorem settings_after (audience : Audience ι) (i j : ι) {session : Session}
    (same : session.settings = (audience.watchers i).settings) :
    ((audience.after i session).watchers j).settings = (audience.watchers j).settings := by
  by_cases here : j = i
  · subst here
    simp only [after, Function.update_self]
    exact same
  · simp only [after, Function.update_of_ne here]

/-- A count that one watcher leaves as it is stays one for the sake of the watcher that it was for,
unless that was the one at work. -/
theorem Sound.heard_after (sound : audience.Sound) (i : ι) {session : Session} {p q : Property}
    (before : q ∈ audience.tree.allProperties) (same : q.uri = p.uri)
    (gone : p.uri ∉ (audience.session i).followed)
    (kept : q.listeners = p.listeners) :
    (audience.after i session).Fits p.uri p.listeners := by
  rw [← kept]
  rcases sound.heard q before with none | ⟨one, j, held⟩
  · exact Or.inl none
  · rw [same] at held
    have other : j ≠ i := by
      rintro rfl
      exact gone held
    exact Or.inr ⟨one, j, (audience.followed_after_of_ne other session).symm ▸ held⟩

theorem Sound.refresh (sound : audience.Sound) (i : ι) :
    (audience.after i (audience.session i).refresh).Sound where
  unsubscribes := by
    intro j
    rw [settings_after audience i j (Session.settings_refresh _)]
    exact sound.unsubscribes j
  wellFormed := by
    intro j
    rw [settings_after audience i j (Session.settings_refresh _), tree_after]
    exact (Tree.wellFormed_congr Property.uri_uncounted (audience.session i).tree_refresh).mpr
      (sound.wellFormed j)
  heard := by
    intro p member
    rw [tree_after] at member
    rcases Session.refresh_cases (sound.wellFormed_session i) sound.heardOnce member with
      ⟨shown, one⟩ | ⟨-, -, -, none⟩ | ⟨-, away, q, before, same, kept⟩
    · exact Or.inr ⟨one, i, by rwa [session_after_self]⟩
    -- What the watcher displays no longer it gives back, though others may display it.
    · exact Or.inl none
    · exact sound.heard_after i before same (away (sound.unsubscribes i)) kept

theorem Sound.unmount (sound : audience.Sound) (i : ι) :
    (audience.after i (audience.session i).unmount).Sound where
  unsubscribes := by
    intro j
    rw [settings_after audience i j rfl]
    exact sound.unsubscribes j
  wellFormed := by
    intro j
    rw [settings_after audience i j rfl, tree_after]
    exact Session.wellFormed_unmount (sound.wellFormed j)
  heard := by
    intro p member
    rw [tree_after] at member
    have well := (sound.wellFormed_session i).toWellAddressed
    rcases Session.unmount_cases well sound.heardOnce member with
      ⟨-, none⟩ | ⟨away, q, before, same, kept⟩
    · exact Or.inl none
    · exact sound.heard_after i before same away kept

theorem Sound.step (sound : audience.Sound) (event : Event ι) : (audience.step event).Sound := by
  cases event with
  | refresh i => exact sound.refresh i
  | unmount i => exact sound.unmount i
  | stream uri value =>
      have same := audience.tree.unvalued_setValue uri value
      refine ⟨sound.unsubscribes, ?_, Tree.forall_heard_setValue.mpr sound.heard⟩
      intro i
      exact (Tree.wellFormed_congr Property.uri_unvalued same).mpr (sound.wellFormed i)

theorem Sound.run (sound : audience.Sound) (events : List (Event ι)) :
    (audience.run events).Sound := by
  induction events generalizing audience with
  | nil => exact sound
  | cons event events ih => exact ih (sound.step event)

theorem displayed_unmount_all (audience : Audience ι) (names : List ι) {i : ι}
    (away : i ∈ names ∨ (audience.watchers i).displayed = []) :
    ((audience.run (names.map .unmount)).watchers i).displayed = [] := by
  induction names generalizing audience with
  | nil => exact away.resolve_left List.not_mem_nil
  | cons name names ih =>
      apply ih
      by_cases here : i = name
      · right
        simp only [step, after, here, Function.update_self]
        rfl
      · refine away.imp (fun member => (List.mem_cons.mp member).resolve_left here) ?_
        intro nothing
        simpa only [step, after, Function.update_of_ne here] using nothing

/-- Watchers share a service without doubling or leaking anything, however many they are and in
whatever order they come and go. All of them give back what leaves their scene, and the tree, which
is well formed for each of them, starts without listeners. Then no property ever has more than one
listener, and one only if some watcher displays it. Right after a refresh everything that the
watcher displays has a listener, whoever has just given it back. And once all watchers are away, all
together or one after the other, no property has a listener. -/
theorem run_shares_subscriptions (audience : Audience ι) (events : List (Event ι))
    (unsubscribes : ∀ i, (audience.watchers i).settings.unsubscribeRemoved = true)
    (wellFormed : ∀ i, audience.tree.WellFormed (audience.watchers i).settings.sceneRoot)
    (unheard : audience.tree.Unheard) :
    let reached := audience.run events
    (∀ p ∈ reached.tree.allProperties,
      p.listeners ≤ 1 ∧ (p.listeners = 1 → ∃ i, (reached.session i).Displays p)) ∧
    (∀ i, let refreshed := reached.step (.refresh i)
      ∀ node ∈ (refreshed.watchers i).displayed, ∀ kind : Tracked,
        refreshed.service.listeners? (node.property kind).uri = some 1) ∧
    ((∀ i, (reached.watchers i).displayed = []) → reached.tree.Unheard) ∧
    ∀ names : List ι, (∀ i, i ∈ names) → (reached.run (names.map .unmount)).tree.Unheard := by
  intro reached
  have start : audience.Sound :=
    ⟨unsubscribes, wellFormed, fun p member => Or.inl (unheard p member)⟩
  have sound : reached.Sound := start.run events
  refine ⟨?_, ?_, sound.unheard, ?_⟩
  · intro p member
    rcases sound.heard p member with none | ⟨one, i, held⟩
    · simp [none]
    · simp only [one, UInt32.le_refl, forall_const, true_and]
      exact ⟨i, Session.displays_iff.mpr held⟩
  · intro i refreshed node member kind
    have self : refreshed.session i = (reached.session i).refresh :=
      reached.session_after_self i _
    have displayed : node ∈ (reached.session i).refresh.watcher.displayed := self ▸ member
    have shown : (node.property kind).uri ∈ (reached.session i).refresh.followed :=
      List.mem_map_of_mem (Command.mem_tracked_iff.mpr ⟨node, displayed, kind, rfl⟩)
    obtain ⟨p, present, found, same⟩ :=
      Session.find?_of_followed (sound.wellFormed_session i) shown
    have one := sound.listeners_refresh i present (same ▸ shown)
    have tree : refreshed.tree = (reached.session i).refresh.tree := reached.tree_after i _
    change (refreshed.tree.find? (node.property kind).uri).map (·.listeners) = some 1
    rw [tree, found, Option.map_some, one]
  · intro names everyone
    apply (sound.run (names.map .unmount)).unheard
    intro i
    exact reached.displayed_unmount_all names (Or.inl (everyone i))

/-- Two watchers see the moon, and one of them leaves: what it gives back the other one takes up
again. -/
theorem pair_shares_subscriptions :
    let pair : Audience Bool := {
      watchers := fun _ => {}
      service := { snapshot := { tree := Session.missions "Apollo" } } }
    let events : List (Event Bool) := [.refresh false, .refresh true, .unmount false]
    let reached := pair.run events
    let refreshed := reached.step (.refresh true)
    (∀ i, (pair.watchers i).settings.unsubscribeRemoved = true) ∧
      (∀ i, pair.tree.WellFormed (pair.watchers i).settings.sceneRoot) ∧
      pair.tree.Unheard ∧
      reached.tree.Unheard ∧
      (refreshed.watchers true).displayed.map (·.identifier) = ["Moon"] ∧
      ∀ node ∈ (refreshed.watchers true).displayed, ∀ kind : Tracked,
        refreshed.service.listeners? (node.property kind).uri = some 1 := by
  intro pair events reached refreshed
  have unsubscribes : ∀ i, (pair.watchers i).settings.unsubscribeRemoved = true := fun _ => rfl
  have wellFormed : ∀ i, pair.tree.WellFormed (pair.watchers i).settings.sceneRoot := by decide
  have unheard : pair.tree.Unheard := by decide
  obtain ⟨-, mended, -⟩ := run_shares_subscriptions pair events unsubscribes wellFormed unheard
  exact ⟨unsubscribes, wellFormed, unheard, by decide +kernel, by decide +kernel, mended true⟩

end Audience

end StoryMarkers
