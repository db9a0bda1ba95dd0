import Mathlib.Logic.Function.Iterate
import StoryMarkers.Proofs.Subscription.Session

set_option autoImplicit false

namespace StoryMarkers

namespace Session

/-- A session in which nothing is left to ask for, and nothing to give back. -/
structure Settled (session : Session) : Prop where
  heard : Command.starts session.nodes = []
  kept : session.followed = Command.addresses session.nodes

variable {session : Session}

theorem Settled.commands_eq_nil (settled : session.Settled) : session.update.commands = [] := by
  have given : Command.removed session.watcher.displayed session.nodes = [] := by
    apply List.eq_nil_iff_forall_not_mem.mpr
    intro uri gone
    obtain ⟨before, after⟩ := Command.mem_removed_iff.mp gone
    exact after (settled.kept ▸ before)
  simp [commands_update, Command.reconcile, settled.heard, given]

theorem Settled.service_refresh (settled : session.Settled) :
    session.refresh.service = session.service := by
  rw [refresh, settled.commands_eq_nil, Service.dispatch_nil]

theorem Settled.refresh (settled : session.Settled) : session.refresh.Settled := by
  have same : session.refresh.nodes = session.nodes := by
    rw [nodes, nodes, tree, tree, settled.service_refresh, settings_refresh]
  constructor
  · rw [same]
    exact settled.heard
  · rw [same, followed_refresh]

theorem Settled.iterate (settled : session.Settled) (number : Nat) :
    (Session.refresh^[number] session).Settled ∧
      (Session.refresh^[number] session).update.markers = session.update.markers ∧
      (Session.refresh^[number] session).service = session.service := by
  induction number with
  | zero => exact ⟨settled, rfl, rfl⟩
  | succ number ih =>
      obtain ⟨quiet, markers, service⟩ := ih
      rw [Function.iterate_succ_apply']
      refine ⟨quiet.refresh, ?_, ?_⟩
      · rw [markers_update_refresh, markers]
      · rw [quiet.service_refresh, service]

/-- A refresh that settles the session is followed by refreshes that ask for nothing and change
nothing. -/
theorem quiet_of_settled_refresh (settled : session.refresh.Settled) (number : Nat) :
    let later := Session.refresh^[number] session.refresh
    later.update.commands = [] ∧ later.update.markers = session.update.markers ∧
      later.refresh.service = session.refresh.service := by
  obtain ⟨quiet, markers, service⟩ := settled.iterate number
  exact ⟨quiet.commands_eq_nil, markers.trans session.markers_update_refresh,
    quiet.service_refresh.trans service⟩

/-- What the watcher finds after a refresh stood at the same address before, among the nodes that
the refresh read. -/
theorem mem_tracked_of_refresh {p : Property}
    (followed : p ∈ Command.tracked session.refresh.nodes) :
    ∃ node ∈ session.nodes, ∃ kind : Tracked,
      let uri := kind.uri session.settings.sceneRoot node.identifier
      session.tree.find? uri = some (node.property kind) ∧
        session.refresh.tree.find? uri = some p := by
  obtain ⟨later, member, kind, rfl⟩ := Command.mem_tracked_iff.mp followed
  -- Up to counts the nodes are the same, so one of the old ones has the same name.
  obtain ⟨node, present, identifier⟩ := Node.exists_namesake session.nodes_refresh member
  refine ⟨node, present, kind, Scene.find?_of_mem_nodesOf present kind, ?_⟩
  rw [identifier]
  exact Scene.find?_of_mem_nodesOf member kind

/-- There is room for all that is asked for as long as fewer nodes are displayed than can be
counted. -/
theorem hasRoom_of_few (addressed : Node.Addressed session.settings.sceneRoot session.nodes)
    (few : session.nodes.length < UInt32.size) :
    session.service.HasRoom (session.update.commands.map .listen) := by
  intro uri p found
  rw [commands_update]
  apply Property.hasRoom_reconcile
  have most := (Command.count_starts_le session.nodes uri).trans
    (Command.count_addresses_le addressed uri)
  by_cases idle : p.listeners = 0
  · rw [idle, UInt32.toNat_zero]
    omega
  · have silent : (Command.starts session.nodes).count (.start uri) = 0 := by
      apply List.count_eq_zero.mpr
      intro asked
      exact idle ((Scene.start_mem_starts_iff addressed found).mp asked).2
    have below := p.listeners.toNat_lt_size
    omega

/-- A property that was not listened to is asked for under its own address, and one that was is not
given back as long as it is displayed. -/
theorem settled_refresh (addressed : Node.Addressed session.settings.sceneRoot session.nodes)
    (room : session.service.HasRoom (session.update.commands.map .listen)) :
    session.refresh.Settled := by
  refine ⟨?_, session.addresses_nodes_refresh.symm⟩
  apply List.eq_nil_iff_forall_not_mem.mpr
  intro command asked
  obtain ⟨p, unheard, rfl⟩ := List.mem_map.mp asked
  obtain ⟨followed, none⟩ := List.mem_filter.mp unheard
  obtain ⟨node, member, kind, before, after⟩ := mem_tracked_of_refresh followed
  have spelled := addressed node member kind
  rw [← spelled] at before after
  have displayed : (node.property kind).uri ∈ Command.addresses session.nodes :=
    List.mem_map_of_mem (Command.mem_tracked_iff.mpr ⟨node, member, kind, rfl⟩)
  rw [tree, service_refresh] at after
  obtain ⟨q, found, -, count⟩ := Service.find?_dispatch before (room _ _ before)
  rw [after] at found
  cases found
  -- What is displayed is not given back in the same batch, so only the starts count.
  rw [commands_update, Property.countAfter_reconcile, if_neg fun stop => stop.2.2 displayed]
    at count
  have silent : p.listeners.toNat = 0 := by
    rw [of_decide_eq_true none]
    rfl
  by_cases idle : (node.property kind).listeners = 0
  · have asked := (Scene.start_mem_starts_iff addressed before).mpr ⟨displayed, idle⟩
    have positive := List.count_pos_iff.mpr asked
    rw [← nodes] at positive
    omega
  · have some : (node.property kind).listeners.toNat ≠ 0 :=
      fun zero => idle (UInt32.toNat_inj.mp zero)
    omega

/-- One refresh settles the subscriptions: any number of further refreshes ask for nothing, show
the same markers and leave the service as it is. This takes no more of the tree than that the
displayed properties stand under the addresses by which they were found, and no more of the counts
than that none of them is pushed over its upper end. -/
theorem refresh_settles (session : Session)
    (addressed : Node.Addressed session.settings.sceneRoot session.nodes)
    (room : session.service.HasRoom (session.update.commands.map .listen)) (number : Nat) :
    let later := Session.refresh^[number] session.refresh
    later.update.commands = [] ∧ later.update.markers = session.update.markers ∧
      later.refresh.service = session.refresh.service := by
  have settled := settled_refresh addressed room
  exact quiet_of_settled_refresh settled number

/-- Fewer displayed nodes than can be counted push no count over its upper end. -/
theorem refresh_settles_few (session : Session)
    (addressed : Node.Addressed session.settings.sceneRoot session.nodes)
    (few : session.nodes.length < UInt32.size) (number : Nat) :
    let later := Session.refresh^[number] session.refresh
    later.update.commands = [] ∧ later.update.markers = session.update.markers ∧
      later.refresh.service = session.refresh.service := by
  have settled := settled_refresh addressed (hasRoom_of_few addressed few)
  exact quiet_of_settled_refresh settled number

/-- Two moons of one name come into a scene in which Mars was displayed. -/
def moonrise : Session where
  watcher := {
    displayed := [{
      identifier := "Mars"
      tags := ["Apollo"]
      position := { uri := "Scene.Mars.ScreenSpacePosition", value := "" }
      visibility := { uri := "Scene.Mars.ScreenVisibility", value := "" }
      distance := { uri := "Scene.Mars.DistanceFromCamToNode", value := "" }
      radius := { uri := "Scene.Mars.ScreenSizeRadius", value := "" } }] }
  service := {
    snapshot := {
      tree := {
        subowners := [
          { identifier := "Story"
            properties := [{ uri := "Story.Identifier", value := "Apollo" }] },
          { identifier := "Scene"
            subowners := [
              { identifier := "Moon", tags := ["Apollo"] },
              { identifier := "Moon"
                tags := ["Apollo"]
                properties := [
                  { uri := "Scene.Moon.ScreenSpacePosition", value := "[0, 0]" },
                  { uri := "Scene.Moon.ScreenVisibility", value := "true" },
                  { uri := "Scene.Moon.DistanceFromCamToNode", value := "1", listeners := 7 },
                  { uri := "Scene.Moon.ScreenSizeRadius", value := "2" }] }] }] } } }

theorem moonrise_settles :
    Node.Addressed moonrise.settings.sceneRoot moonrise.nodes ∧
      moonrise.service.HasRoom (moonrise.update.commands.map .listen) ∧
      moonrise.update.commands.length = 10 ∧
      (Session.refresh^[2] moonrise.refresh).update.commands = [] := by
  have addressed : Node.Addressed moonrise.settings.sceneRoot moonrise.nodes := by decide
  have room : moonrise.service.HasRoom (moonrise.update.commands.map .listen) :=
    hasRoom_of_few addressed (by decide)
  obtain ⟨quiet, -⟩ := refresh_settles moonrise addressed room 2
  exact ⟨addressed, room, by decide, quiet⟩

end Session

end StoryMarkers
