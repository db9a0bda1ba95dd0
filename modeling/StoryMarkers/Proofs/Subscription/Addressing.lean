import StoryMarkers.Proofs.Scene.WellFormed
import StoryMarkers.Proofs.Subscription.Reordering

set_option autoImplicit false

namespace StoryMarkers

namespace Tree

variable {tree : Tree} {uri : String} {slot : Slot}

/-- No address leads to the slot of another one. -/
theorem slot?_eq_some_iff_of_slot? (found : tree.slot? uri = some slot) (other : String) :
    tree.slot? other = some slot ↔ other = uri := by
  constructor
  · intro shared
    exact slot?_injective shared found
  · rintro rfl
    exact found

end Tree

namespace Property

/-- Nobody is taken off where nobody listens. -/
theorem stop_of_idle {p : Property} (idle : p.listeners = 0) : p.stop = p := by
  cases p
  simp only at idle
  subst idle
  rfl

theorem afterAll_stops_of_idle {p : Property} (idle : p.listeners = 0) (number : Nat)
    (uri : String) :
    p.afterAll ((List.replicate number (Command.stop uri)).map .listen) = p := by
  induction number with
  | zero => rfl
  | succ number ih =>
      rw [List.replicate_succ, List.map_cons, afterAll_cons]
      change p.stop.afterAll _ = p
      rw [stop_of_idle idle, ih]

end Property

namespace Service

/-- A command changes the slot of the address it names and no other. -/
theorem get?_run {service : Service} {uri : String} {slot : Slot} {p : Property}
    (found : service.snapshot.tree.slot? uri = some slot)
    (present : service.snapshot.tree.get? slot = some p) (command : Command) :
    (service.run command).snapshot.tree.get? slot =
      some (if command.uri = uri then command.change p else p) := by
  have reached : (service.run command).snapshot.tree =
      service.snapshot.tree.update command.uri command.change := tree_serve service (.listen command)
  rw [reached, Tree.get?_update, present]
  simp only [Tree.slot?_eq_some_iff_of_slot? found]
  split <;> rfl

end Service

namespace Session

variable {session : Session} {identifier : String} {kind : Tracked} {p : Property}

/-- A session that displays a property to which nobody listens, and in which no displayed property
carries the address by which that one is found. -/
structure Unanswered (session : Session) (identifier : String) (kind : Tracked) (p : Property) :
    Prop where
  displayed : ∃ node ∈ session.nodes, node.identifier = identifier ∧ node.property kind = p
  idle : p.listeners = 0
  astray : kind.uri session.settings.sceneRoot identifier ∉ Command.addresses session.nodes

theorem Unanswered.find? (unanswered : session.Unanswered identifier kind p) :
    session.tree.find? (kind.uri session.settings.sceneRoot identifier) = some p := by
  obtain ⟨node, member, rfl, rfl⟩ := unanswered.displayed
  exact Scene.find?_of_mem_nodesOf member kind

/-- It is asked for, under the address that it carries. -/
theorem Unanswered.start_mem (unanswered : session.Unanswered identifier kind p) :
    .start p.uri ∈ session.update.commands := by
  obtain ⟨node, member, -, same⟩ := unanswered.displayed
  rw [commands_update, Command.start_mem_reconcile_iff, Command.start_mem_starts_iff]
  exact ⟨p, Command.mem_tracked_iff.mpr ⟨node, member, kind, same⟩, unanswered.idle, rfl⟩

/-- The request does not reach it, and what else a refresh asks for does not, either. -/
theorem Unanswered.find?_refresh (unanswered : session.Unanswered identifier kind p) :
    session.refresh.tree.find? (kind.uri session.settings.sceneRoot identifier) = some p := by
  have silent : (Command.starts session.nodes).count
      (.start (kind.uri session.settings.sceneRoot identifier)) = 0 :=
    Nat.le_zero.mp ((Command.count_starts_le session.nodes _).trans_eq
      (List.count_eq_zero.mpr unanswered.astray))
  rw [tree, service_refresh, Service.dispatch_eq_serveAll, Service.find?_serveAll,
    Command.naming_listen, commands_update, Command.naming_reconcile, silent,
    List.replicate_zero, List.nil_append]
  rw [← tree, unanswered.find?, Option.map_some, Property.afterAll_stops_of_idle unanswered.idle]

theorem Unanswered.refresh (unanswered : session.Unanswered identifier kind p) :
    session.refresh.Unanswered identifier kind p := by
  refine ⟨?_, unanswered.idle, ?_⟩
  · -- The nodes are the same up to counts, so one of the new ones has the same name.
    obtain ⟨node, member, rfl, -⟩ := unanswered.displayed
    obtain ⟨later, present, identifier⟩ :=
      Node.exists_namesake session.nodes_refresh.symm member
    have found := Scene.find?_of_mem_nodesOf present kind
    change session.refresh.tree.find? (kind.uri session.settings.sceneRoot later.identifier) = _
      at found
    rw [identifier, unanswered.find?_refresh, Option.some.injEq] at found
    exact ⟨later, present, identifier, found.symm⟩
  · rw [settings_refresh, addresses_nodes_refresh]
    exact unanswered.astray

theorem Unanswered.iterate (unanswered : session.Unanswered identifier kind p) (number : Nat) :
    (Session.refresh^[number] session).Unanswered identifier kind p := by
  induction number with
  | zero => exact unanswered
  | succ number ih =>
      rw [Function.iterate_succ_apply']
      exact ih.refresh

theorem settings_iterate_refresh (session : Session) (number : Nat) :
    (Session.refresh^[number] session).settings = session.settings := by
  induction number with
  | zero => rfl
  | succ number ih => rw [Function.iterate_succ_apply', settings_refresh, ih]

/-- A property of a node need not carry the address by which it was found, only its last name, and a
command that names what it carries reaches it exactly if the two are the same. They are in a tree
whose addresses say where its properties stand. Where they differ the property is left as it is by
everything that is asked on its behalf; and if nobody listens to it, and no displayed property
carries the address by which it was found, every refresh from then on finds it as it was and asks
for it again. -/
theorem command_reaches_its_property_iff (session : Session) {node : Node}
    (member : node ∈ session.nodes) (kind : Tracked) :
    let p := node.property kind
    let address := kind.uri session.settings.sceneRoot node.identifier
    ∃ slot, session.tree.slot? address = some slot ∧ session.tree.get? slot = some p ∧
      Uri.name p.uri = kind.name ∧
      (session.tree.slot? p.uri = some slot ↔ p.uri = address) ∧
      (∀ command : Command, command.uri = p.uri →
        (session.service.run command).snapshot.tree.get? slot =
          some (if p.uri = address then command.change p else p)) ∧
      (session.tree.WellAddressed → p.uri = address) ∧
      (p.listeners = 0 → address ∉ Command.addresses session.nodes → ∀ number,
        let later := Session.refresh^[number] session
        later.tree.find? address = some p ∧ .start p.uri ∈ later.update.commands) := by
  intro p address
  have looked : session.tree.find? address = some p := Scene.find?_of_mem_nodesOf member kind
  obtain ⟨slot, found, present⟩ := Tree.find?_eq_some_iff.mp looked
  refine ⟨slot, found, present, ?_, Tree.slot?_eq_some_iff_of_slot? found p.uri, ?_, ?_, ?_⟩
  · obtain ⟨q, present', last⟩ := Tree.get?_of_slot? found
    rw [present, Option.some.injEq] at present'
    rw [present', last]
    exact Uri.name_child kind.dotFree_name
  · intro command named
    rw [Service.get?_run found present, named]
  · intro well
    exact Scene.addressed_nodesOf well node member kind
  · intro idle astray number later
    have unanswered : session.Unanswered node.identifier kind p :=
      ⟨⟨node, member, rfl, rfl⟩, idle, astray⟩
    have still := (unanswered.iterate number).find?
    rw [settings_iterate_refresh] at still
    exact ⟨still, (unanswered.iterate number).start_mem⟩

/-- A moon whose properties are called by their last names alone. -/
def plainMoon : Session where
  service := {
    snapshot := {
      tree := {
        subowners := [
          { identifier := "Story"
            properties := [{ uri := "Story.Identifier", value := "Apollo" }] },
          { identifier := "Scene"
            subowners := [
              { identifier := "Moon"
                tags := ["Apollo"]
                properties := Tracked.all.map fun kind =>
                  { uri := kind.name, value := "" } }] }] } } }

/-- It is displayed, and nothing that is asked for it leads anywhere. -/
theorem plain_moon_is_never_reached :
    plainMoon.nodes.length = 1 ∧
      ¬ Node.Addressed plainMoon.settings.sceneRoot plainMoon.nodes ∧
      plainMoon.update.commands = Tracked.all.map (fun kind => .start kind.name) ∧
      (∀ command ∈ plainMoon.update.commands, plainMoon.tree.slot? command.uri = none) ∧
      plainMoon.refresh.tree.Unheard ∧
      plainMoon.refresh.update.commands = plainMoon.update.commands := by
  decide

theorem plain_moon_is_asked_for_again :
    let node : Node := {
      identifier := "Moon"
      tags := ["Apollo"]
      position := { uri := "ScreenSpacePosition", value := "" }
      visibility := { uri := "ScreenVisibility", value := "" }
      distance := { uri := "DistanceFromCamToNode", value := "" }
      radius := { uri := "ScreenSizeRadius", value := "" } }
    node ∈ plainMoon.nodes ∧
      .start "ScreenVisibility" ∈ (Session.refresh^[100] plainMoon).update.commands ∧
      (Session.refresh^[100] plainMoon).tree.find? "Scene.Moon.ScreenVisibility" =
        some node.visibility := by
  intro node
  have member : node ∈ plainMoon.nodes := by decide
  obtain ⟨_, -, -, -, -, -, -, again⟩ :=
    command_reaches_its_property_iff plainMoon member .visibility
  obtain ⟨still, asked⟩ := again rfl (by decide) 100
  exact ⟨member, asked, still⟩

end Session

end StoryMarkers
