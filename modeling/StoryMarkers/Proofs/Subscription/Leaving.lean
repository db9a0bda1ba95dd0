import StoryMarkers.Proofs.Subscription.Lifecycle
import StoryMarkers.Proofs.Subscription.Streaming

set_option autoImplicit false

namespace StoryMarkers

private theorem eraseDups_of_nodup {uris : List String} (distinct : uris.Nodup) :
    uris.eraseDups = uris := by
  induction uris with
  | nil => rfl
  | cons uri rest ih =>
      obtain ⟨new, others⟩ := List.nodup_cons.mp distinct
      have kept : rest.filter (fun other => !other == uri) = rest := by
        apply List.filter_eq_self.mpr
        intro other member
        have apart : other ≠ uri := fun same => new (same ▸ member)
        simpa using apart
      rw [List.eraseDups_cons, kept, ih others]

namespace Property

/-- A count that is one less than a number is none as long as the number is one at most. -/
theorem listeners_eq_zero_iff {p : Property} {number : Nat}
    (count : p.listeners.toNat = number - 1) : p.listeners = 0 ↔ number ≤ 1 := by
  rw [← UInt32.toNat_inj, count, UInt32.toNat_zero]
  omega

/-- Starts push a count around its upper end. -/
theorem toNat_afterAll_starts (p : Property) (number : Nat) (uri : String) :
    (p.afterAll ((List.replicate number (Command.start uri)).map .listen)).listeners.toNat =
      (p.listeners.toNat + number) % UInt32.size := by
  induction number generalizing p with
  | zero => exact (Nat.mod_eq_of_lt p.listeners.toNat_lt_size).symm
  | succ number ih =>
      have one : p.start.listeners.toNat = (p.listeners.toNat + 1) % UInt32.size := by
        simp only [start, UInt32.toNat_add, UInt32.reduceToNat]
      rw [List.replicate_succ, List.map_cons, afterAll_cons]
      change (p.start.afterAll _).listeners.toNat = _
      rw [ih, one, Nat.mod_add_mod, Nat.add_assoc, Nat.add_comm 1 number]

theorem toNat_afterAll_stops (p : Property) (number : Nat) (uri : String) :
    (p.afterAll ((List.replicate number (Command.stop uri)).map .listen)).listeners.toNat =
      p.listeners.toNat - number := by
  have room : p.HasRoom ((List.replicate number (Command.stop uri)).map .listen) := by
    apply hasRoom_of_starts
    rw [List.map_replicate, List.countP_replicate]
    exact p.listeners.toNat_lt_size
  rw [toNat_afterAll p _ room, countAfter_stops]

theorem listeners_afterAll_stream (p : Property) (uri target value : String) :
    (p.afterAll (Request.naming uri [.stream target value])).listeners = p.listeners := by
  rw [Request.naming_cons]
  split <;> rfl

end Property

namespace Command

/-- Nodes to which nobody listens ask for every property as often as they follow it. -/
theorem count_starts_of_unheard {nodes : List Node}
    (unheard : ∀ p ∈ tracked nodes, p.listeners = 0) (uri : String) :
    (starts nodes).count (.start uri) = (addresses nodes).count uri := by
  have whole : (tracked nodes).filter (·.listeners = 0) = tracked nodes :=
    List.filter_eq_self.mpr fun p followed => decide_eq_true (unheard p followed)
  rw [count_starts, whole, addresses]

/-- Where nothing is followed twice, giving back what is gone is giving back every property. -/
theorem reconcile_nil_of_nodup {nodes : List Node} (distinct : (addresses nodes).Nodup) :
    reconcile nodes [] true = release nodes := by
  have gone : removed nodes [] = addresses nodes := by
    rw [removed]
    simp only [tracked, List.flatMap_nil, List.map_nil, List.contains_nil, Bool.not_false,
      List.filter_true]
    exact eraseDups_of_nodup distinct
  rw [reconcile, if_pos rfl, gone, addresses, List.map_map]
  rfl

end Command

namespace Tree

/-- Trees that nobody listens to are known without their counts. -/
theorem Unheard.eq_of_uncounted {tree other : Tree} (unheard : tree.Unheard)
    (unheard' : other.Unheard) (same : tree.map Property.uncounted = other.map Property.uncounted) :
    tree = other := by
  have whole : ∀ {tree : Tree}, tree.Unheard → ∀ slot,
      (tree.get? slot).map Property.uncounted = tree.get? slot := by
    intro tree unheard slot
    cases present : tree.get? slot with
    | none => rfl
    | some p =>
        have idle := unheard p (mem_allProperties_iff.mpr ⟨slot, present⟩)
        rw [Option.map_some, Property.uncounted, Property.setListeners, ← idle]
  apply ext_get? same
  intro slot
  rw [← whole unheard, ← get?_map, same, get?_map, whole unheard']

end Tree

namespace Scene

/-- Whether a story has owners in a scene is not a matter of their properties. -/
theorem ownersOf_eq_nil_congr {f : Property → Property} {tree other : Tree}
    (same : tree.map f = other.map f) {sceneRoot story : String} :
    ownersOf tree sceneRoot story = [] ↔ ownersOf other sceneRoot story = [] := by
  have images : (ownersOf tree sceneRoot story).map (Owner.map f) =
      (ownersOf other sceneRoot story).map (Owner.map f) := by
    rw [← ownersOf_map, same, ownersOf_map]
  rw [← List.map_eq_nil_iff, images, List.map_eq_nil_iff]

/-- A story without owners leaves the scene without nodes. -/
theorem nodesOf_setValue_eq_nil {tree : Tree} {settings : Settings} {value : String}
    (absent : ownersOf tree settings.sceneRoot value = []) :
    nodesOf (tree.update settings.storyUri (·.setValue value)) settings = [] := by
  have nobody := (ownersOf_eq_nil_congr (tree.unvalued_setValue settings.storyUri value)).mpr absent
  rw [nodesOf, Tree.find?_update (Property.name_setValue value), if_pos rfl]
  cases tree.find? settings.storyUri with
  | none => rfl
  | some story =>
      change List.filterMap _ (ownersOf _ settings.sceneRoot value) = []
      rw [nobody, List.filterMap_nil]

end Scene

namespace Session

variable {session : Session}

/-- Where nobody listens, a refresh leaves as many listeners as there are places that display the
address, up to the upper end of a count. -/
theorem toNat_afterAll_refresh (unheard : session.tree.Unheard) {uri : String} {p : Property}
    (idle : p.listeners = 0) :
    (p.afterAll (Request.naming uri (session.update.commands.map .listen))).listeners.toNat =
      (Command.addresses session.nodes).count uri % UInt32.size := by
  have none : ∀ p ∈ Command.tracked session.nodes, p.listeners = 0 := by
    intro p followed
    obtain ⟨node, member, kind, rfl⟩ := Command.mem_tracked_iff.mp followed
    exact unheard _ (Tree.mem_allProperties_of_find? (Scene.find?_of_mem_nodesOf member kind))
  rw [commands_update, Command.naming_listen, Command.naming_reconcile, List.map_append,
    Property.afterAll_append, Property.toNat_afterAll_stops, Property.toNat_afterAll_starts, idle,
    Command.count_starts_of_unheard none, UInt32.toNat_zero, Nat.zero_add]
  -- What is given back in the same batch is not displayed, and so was not asked for.
  split
  · rename_i given
    rw [List.count_eq_zero.mpr given.2.2]
    rfl
  · rfl

variable (session) (value : String)

/-- What is asked of the service by a watcher that comes and leaves. -/
def leaving : List Request :=
  (session.update.commands ++ Command.release session.nodes).map .listen

/-- What is asked of the service by a watcher that comes, and whose scene is emptied by a story. -/
def emptying : List Request :=
  session.update.commands.map .listen ++ [.stream session.settings.storyUri value] ++
    (Command.reconcile session.nodes [] true).map .listen

variable {session value}

theorem run_leaving : session.run [.refresh, .unmount] = session.refresh.unmount := rfl

theorem run_emptying (uri : String) :
    session.run [.refresh, .stream uri value, .refresh] =
      (session.refresh.step (.stream uri value)).refresh := rfl

theorem service_left :
    (session.run [.refresh, .unmount]).service = session.service.serveAll session.leaving := by
  rw [run_leaving, service_unmount, service_refresh, displayed_refresh,
    Service.dispatch_eq_serveAll, Service.dispatch_eq_serveAll, ← Service.serveAll_append,
    ← List.map_append, leaving]

/-- The story that empties the scene is taken up, and then nothing is displayed. -/
theorem nodes_stream (absent : Scene.ownersOf session.tree session.settings.sceneRoot value = []) :
    (session.refresh.step (.stream session.settings.storyUri value)).nodes = [] := by
  have nobody := (Scene.ownersOf_eq_nil_congr session.tree_refresh).mpr absent
  exact Scene.nodesOf_setValue_eq_nil nobody

theorem commands_stream (unsubscribes : session.settings.unsubscribeRemoved = true)
    (absent : Scene.ownersOf session.tree session.settings.sceneRoot value = []) :
    (session.refresh.step (.stream session.settings.storyUri value)).update.commands =
      Command.reconcile session.nodes [] true := by
  rw [commands_update, nodes_stream absent, settings_step, settings_refresh, unsubscribes]
  rfl

theorem service_emptied (unsubscribes : session.settings.unsubscribeRemoved = true)
    (absent : Scene.ownersOf session.tree session.settings.sceneRoot value = []) :
    (session.run [.refresh, .stream session.settings.storyUri value, .refresh]).service =
      session.service.serveAll (session.emptying value) := by
  have streamed : (session.refresh.step (.stream session.settings.storyUri value)).service =
      session.refresh.service.serveAll [.stream session.settings.storyUri value] := rfl
  rw [run_emptying, service_refresh, commands_stream unsubscribes absent, streamed, service_refresh,
    Service.dispatch_eq_serveAll, Service.dispatch_eq_serveAll, ← Service.serveAll_append,
    ← Service.serveAll_append, emptying, List.append_assoc]

theorem toNat_afterAll_leaving (unheard : session.tree.Unheard) {uri : String} {p : Property}
    (idle : p.listeners = 0) :
    (p.afterAll (Request.naming uri session.leaving)).listeners.toNat = 0 := by
  rw [leaving, List.map_append, Request.naming_append, Property.afterAll_append,
    Command.naming_listen uri (Command.release session.nodes), Command.naming_release,
    Property.toNat_afterAll_stops, toNat_afterAll_refresh unheard idle]
  exact Nat.sub_eq_zero_of_le (Nat.mod_le _ _)

theorem toNat_afterAll_emptying (unheard : session.tree.Unheard) {uri : String} {p : Property}
    (idle : p.listeners = 0) :
    (p.afterAll (Request.naming uri (session.emptying value))).listeners.toNat =
      (Command.addresses session.nodes).count uri % UInt32.size - 1 := by
  have given : Command.naming uri (Command.reconcile session.nodes [] true) =
      List.replicate (if uri ∈ Command.addresses session.nodes then 1 else 0) (.stop uri) := by
    have silent : Command.starts [] = [] := rfl
    have away : uri ∉ Command.addresses [] := List.not_mem_nil
    rw [Command.naming_reconcile, silent, List.count_nil, List.replicate_zero, List.nil_append]
    simp only [away, not_false_eq_true, and_true, true_and]
  rw [emptying, Request.naming_append, Request.naming_append, Property.afterAll_append,
    Property.afterAll_append, Command.naming_listen uri (Command.reconcile session.nodes [] true),
    given, Property.toNat_afterAll_stops, Property.listeners_afterAll_stream,
    toNat_afterAll_refresh unheard idle]
  split
  · rfl
  · rename_i away
    rw [List.count_eq_zero.mpr away]
    rfl

/-- A watcher that leaves the scene gives back all that it asked for. -/
theorem tree_left (unheard : session.tree.Unheard) :
    (session.run [.refresh, .unmount]).tree = session.tree := by
  have idle : (session.run [.refresh, .unmount]).tree.Unheard := by
    intro q member
    obtain ⟨slot, present⟩ := Tree.mem_allProperties_iff.mp member
    rw [tree, service_left] at present
    by_cases reached : ∃ uri, session.tree.slot? uri = some slot
    · obtain ⟨uri, found⟩ := reached
      obtain ⟨p, before, -⟩ := Tree.get?_of_slot? found
      have none := unheard p (Tree.mem_allProperties_iff.mpr ⟨slot, before⟩)
      rw [Service.get?_serveAll_of_slot? found, ← tree, before, Option.map_some,
        Option.some.injEq] at present
      rw [← present]
      exact UInt32.toNat_inj.mp (toNat_afterAll_leaving unheard none)
    · rw [not_exists] at reached
      rw [Service.get?_serveAll_of_untouched _ _ _ fun request _ => reached request.uri] at present
      exact unheard q (Tree.mem_allProperties_iff.mpr ⟨slot, present⟩)
  exact idle.eq_of_uncounted unheard
    (session.refresh.tree_unmount.trans session.tree_refresh)

/-- In a slot that an address leads to, emptying the scene leaves one listener less than there were
places that displayed the address. -/
theorem get?_emptied (unheard : session.tree.Unheard)
    (unsubscribes : session.settings.unsubscribeRemoved = true)
    (absent : Scene.ownersOf session.tree session.settings.sceneRoot value = []) {uri : String}
    {slot : Slot} (found : session.tree.slot? uri = some slot) :
    ∃ p q, session.tree.get? slot = some p ∧ p.listeners = 0 ∧
      (session.run [.refresh, .stream session.settings.storyUri value, .refresh]).tree.get? slot =
        some q ∧
      q.listeners.toNat = (Command.addresses session.nodes).count uri % UInt32.size - 1 := by
  obtain ⟨p, present, -⟩ := Tree.get?_of_slot? found
  have idle := unheard p (Tree.mem_allProperties_iff.mpr ⟨slot, present⟩)
  refine ⟨p, p.afterAll (Request.naming uri (session.emptying value)), present, idle, ?_,
    toNat_afterAll_emptying unheard idle⟩
  rw [tree, service_emptied unsubscribes absent, Service.get?_serveAll_of_slot? found, ← tree,
    present, Option.map_some]

/-- Leaving a scene and having it emptied need not release the same. Both watchers come into a scene
that nobody listens to, and display nothing in the end. The one that leaves has given back all that
it asked for. Where the scene is emptied, by a story that no owner in it has a tag of, the count at
an address is one less than the number of times that the address was displayed, up to the upper end
of a count. So the counts of all properties but the story's are the same in both cases exactly if no
address that leads to one of them was displayed more than once, and where no address was, the same
commands give everything back. -/
theorem leaving_and_emptying_agree_iff (session : Session) (value : String)
    (unheard : session.tree.Unheard) (unsubscribes : session.settings.unsubscribeRemoved = true)
    (absent : Scene.ownersOf session.tree session.settings.sceneRoot value = []) :
    let storyUri := session.settings.storyUri
    let left := session.run [.refresh, .unmount]
    let emptied := session.run [.refresh, .stream storyUri value, .refresh]
    let times := fun uri => (Command.addresses session.nodes).count uri
    left.watcher.displayed = [] ∧ emptied.watcher.displayed = [] ∧
    left.tree = session.tree ∧
    (∀ uri q, emptied.tree.find? uri = some q →
      q.listeners.toNat = times uri % UInt32.size - 1) ∧
    ((∀ slot, session.tree.slot? storyUri ≠ some slot →
        (emptied.tree.get? slot).map (·.listeners) = (left.tree.get? slot).map (·.listeners)) ↔
      ∀ uri, uri ≠ storyUri → (session.tree.find? uri).isSome →
        times uri % UInt32.size ≤ 1) ∧
    ((Command.addresses session.nodes).Nodup →
      (session.run [.refresh, .stream storyUri value]).update.commands =
        session.refresh.watcher.unmount.2) := by
  intro storyUri left emptied times
  have restored : left.tree = session.tree := tree_left unheard
  have service : emptied.service = session.service.serveAll (session.emptying value) :=
    service_emptied unsubscribes absent
  have reached : ∀ {uri slot}, session.tree.slot? uri = some slot →
      ∃ p q, session.tree.get? slot = some p ∧ p.listeners = 0 ∧ emptied.tree.get? slot = some q ∧
        q.listeners.toNat = times uri % UInt32.size - 1 :=
    get?_emptied unheard unsubscribes absent
  have gone : left.watcher.displayed = [] := displayed_unmount _
  have gone' : emptied.watcher.displayed = [] := by
    rw [show emptied = _ from run_emptying storyUri, displayed_refresh]
    exact nodes_stream absent
  refine ⟨gone, gone', restored, ?_, ?_, ?_⟩
  · intro uri q found
    obtain ⟨slot, leads, present⟩ := Tree.find?_eq_some_iff.mp found
    rw [tree, service, Service.slot?_serveAll] at leads
    obtain ⟨-, q', -, -, present', count⟩ := reached leads
    rw [present, Option.some.injEq] at present'
    rw [present', count]
  · rw [restored]
    constructor
    · intro agree uri other known
      rw [Tree.isSome_find?] at known
      obtain ⟨slot, found⟩ := Option.isSome_iff_exists.mp known
      have apart : session.tree.slot? storyUri ≠ some slot :=
        fun shared => other (Tree.slot?_injective found shared)
      obtain ⟨p, q, before, idle, after, count⟩ := reached found
      have same := agree slot apart
      rw [before, after, Option.map_some, Option.map_some, Option.some.injEq, idle] at same
      exact (Property.listeners_eq_zero_iff count).mp same
    · intro once slot apart
      by_cases leads : ∃ uri, session.tree.slot? uri = some slot
      · obtain ⟨uri, found⟩ := leads
        have other : uri ≠ storyUri := by
          rintro rfl
          exact apart found
        obtain ⟨p, q, before, idle, after, count⟩ := reached found
        have known : (session.tree.find? uri).isSome := by
          rw [Tree.isSome_find?, found]
          rfl
        have none := (Property.listeners_eq_zero_iff count).mpr (once uri other known)
        rw [before, after, Option.map_some, Option.map_some, idle, none]
      · rw [not_exists] at leads
        rw [tree, service,
          Service.get?_serveAll_of_untouched _ _ _ fun request _ => leads request.uri, tree]
  · intro distinct
    rw [commands_unmount, displayed_refresh, ← Command.reconcile_nil_of_nodup distinct]
    exact commands_stream unsubscribes absent

/-- Two moons of one name. Only the first of them is found, and is displayed for both. -/
def twinMoons : Session where
  service := {
    snapshot := {
      tree := {
        subowners := [
          { identifier := "Story"
            properties := [{ uri := "Story.Identifier", value := "Apollo" }] },
          { identifier := "Scene", subowners := [moon, moon] }] } } }
where
  moon : Owner := {
    identifier := "Moon"
    tags := ["Apollo"]
    properties := Tracked.all.map fun kind => { uri := kind.uri "Scene" "Moon", value := "" } }

/-- Of the properties behind the story's none is listened to once the watcher has left, but all of
the first moon are where the scene was emptied. -/
theorem twin_moons_stay_heard :
    let left := twinMoons.run [.refresh, .unmount]
    let emptied := twinMoons.run [.refresh, .stream "Story.Identifier" "Viking", .refresh]
    twinMoons.settings.unsubscribeRemoved = true ∧ twinMoons.tree.Unheard ∧
      twinMoons.tree.allProperties.head?.map (·.uri) = some "Story.Identifier" ∧
      emptied.nodes = [] ∧
      left.tree.allProperties.tail.map (·.listeners) = [0, 0, 0, 0, 0, 0, 0, 0] ∧
      emptied.tree.allProperties.tail.map (·.listeners) = [1, 1, 1, 1, 0, 0, 0, 0] := by
  decide +kernel

theorem twin_moons_release_differently :
    let left := twinMoons.run [.refresh, .unmount]
    let emptied := twinMoons.run [.refresh, .stream "Story.Identifier" "Viking", .refresh]
    twinMoons.tree.Unheard ∧ twinMoons.settings.unsubscribeRemoved = true ∧
      Scene.ownersOf twinMoons.tree twinMoons.settings.sceneRoot "Viking" = [] ∧
      left.tree = twinMoons.tree ∧
      ¬ ∀ slot, twinMoons.tree.slot? "Story.Identifier" ≠ some slot →
        (emptied.tree.get? slot).map (·.listeners) = (left.tree.get? slot).map (·.listeners) := by
  intro left emptied
  have unheard : twinMoons.tree.Unheard := by decide
  have absent : Scene.ownersOf twinMoons.tree twinMoons.settings.sceneRoot "Viking" = [] := by
    decide
  obtain ⟨-, -, restored, -, agree, -⟩ :=
    leaving_and_emptying_agree_iff twinMoons "Viking" unheard rfl absent
  refine ⟨unheard, rfl, absent, restored, ?_⟩
  intro same
  have once := agree.mp same "Scene.Moon.ScreenVisibility" (by decide) (by decide)
  exact absurd once (by decide)

end Session

end StoryMarkers
