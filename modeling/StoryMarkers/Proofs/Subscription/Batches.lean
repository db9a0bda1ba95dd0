import Mathlib.Data.List.Count
import StoryMarkers.Proofs.Scene.Nodes
import StoryMarkers.Proofs.Subscription.Requests

set_option autoImplicit false

namespace StoryMarkers

private theorem nodup_eraseDups (uris : List String) : uris.eraseDups.Nodup := by
  match uris with
  | [] => exact List.nodup_nil
  | uri :: rest =>
      rw [List.eraseDups_cons, List.nodup_cons]
      refine ⟨?_, nodup_eraseDups _⟩
      intro again
      simpa using List.mem_eraseDups.mp again
termination_by uris.length
decreasing_by
  have shorter := List.length_filter_le (fun other => !other == uri) rest
  rw [List.length_cons]
  omega

namespace Command

/-- The addresses that a list of nodes follows, in order. -/
def addresses (nodes : List Node) : List String := (tracked nodes).map (·.uri)

theorem mem_tracked_iff {nodes : List Node} {p : Property} :
    p ∈ tracked nodes ↔ ∃ node ∈ nodes, ∃ kind, node.property kind = p := by
  simp only [tracked, List.mem_flatMap, Node.mem_properties_iff]

theorem mem_addresses_iff {nodes : List Node} {uri : String} :
    uri ∈ addresses nodes ↔ ∃ node ∈ nodes, ∃ kind, (node.property kind).uri = uri := by
  simp only [addresses, List.mem_map, mem_tracked_iff]
  constructor
  · rintro ⟨_, ⟨node, member, kind, rfl⟩, same⟩
    exact ⟨node, member, kind, same⟩
  · rintro ⟨node, member, kind, same⟩
    exact ⟨_, ⟨node, member, kind, rfl⟩, same⟩

/-- The commands for one address. -/
def naming (uri : String) (commands : List Command) : List Command :=
  commands.filter (·.uri = uri)

theorem naming_listen (uri : String) (commands : List Command) :
    Request.naming uri (commands.map .listen) = (naming uri commands).map .listen := by
  rw [Request.naming, List.filter_map]
  rfl

theorem naming_append (uri : String) (first second : List Command) :
    naming uri (first ++ second) = naming uri first ++ naming uri second :=
  List.filter_append first second

theorem naming_eq_replicate {uri : String} {command : Command} {commands : List Command}
    (only : ∀ other ∈ commands, other.uri = uri ↔ other = command) :
    naming uri commands = List.replicate (commands.count command) command := by
  have same : naming uri commands = commands.filter (· == command) := by
    apply List.filter_congr
    intro other member
    simp only [only other member, beq_eq_decide]
  rw [same, List.filter_beq]

theorem naming_starts (uri : String) (nodes : List Node) :
    naming uri (starts nodes) =
      List.replicate ((starts nodes).count (.start uri)) (.start uri) := by
  apply naming_eq_replicate
  intro command member
  obtain ⟨p, -, rfl⟩ := List.mem_map.mp member
  simp [Command.uri]

theorem naming_stops (uri : String) (uris : List String) :
    naming uri (uris.map .stop) = List.replicate (uris.count uri) (.stop uri) := by
  have injective : Function.Injective Command.stop := by
    intro left right same
    cases same
    rfl
  rw [← List.count_map_of_injective uris Command.stop injective]
  apply naming_eq_replicate
  intro command member
  obtain ⟨other, -, rfl⟩ := List.mem_map.mp member
  simp [Command.uri]

/-- Only a property without listeners is asked for. -/
theorem start_mem_starts_iff {uri : String} {nodes : List Node} :
    .start uri ∈ starts nodes ↔ ∃ p ∈ tracked nodes, p.listeners = 0 ∧ p.uri = uri := by
  simp [starts, and_assoc]

theorem count_starts (nodes : List Node) (uri : String) :
    (starts nodes).count (.start uri) =
      (((tracked nodes).filter (·.listeners = 0)).map (·.uri)).count uri := by
  have split : starts nodes =
      (((tracked nodes).filter (·.listeners = 0)).map (·.uri)).map .start := by
    rw [starts, List.map_map]
    rfl
  have injective : Function.Injective Command.start := by
    intro left right same
    cases same
    rfl
  rw [split, List.count_map_of_injective _ Command.start injective]

theorem count_starts_le (nodes : List Node) (uri : String) :
    (starts nodes).count (.start uri) ≤ (addresses nodes).count uri := by
  rw [count_starts]
  exact (List.filter_sublist.map _).count_le uri

/-- An address is followed by every node once at most. -/
theorem count_addresses_le {sceneRoot : String} {nodes : List Node}
    (addressed : Node.Addressed sceneRoot nodes) (uri : String) :
    (addresses nodes).count uri ≤ nodes.length := by
  induction nodes with
  | nil => exact Nat.le_refl 0
  | cons node rest ih =>
      obtain ⟨here, later⟩ := List.forall_mem_cons.mp addressed
      have once := List.nodup_iff_count_le_one.mp (Node.nodup_uris here) uri
      have others := ih later
      have split : addresses (node :: rest) = node.properties.map (·.uri) ++ addresses rest := by
        simp only [addresses, tracked, List.flatMap_cons, List.map_append]
      rw [split, List.count_append, List.length_cons]
      omega

/-- Only an address that is followed no longer is given back. -/
theorem mem_removed_iff {previous current : List Node} {uri : String} :
    uri ∈ removed previous current ↔ uri ∈ addresses previous ∧ uri ∉ addresses current := by
  simp [removed, addresses]

theorem count_removed (previous current : List Node) (uri : String) :
    (removed previous current).count uri =
      if uri ∈ addresses previous ∧ uri ∉ addresses current then 1 else 0 := by
  have once : (removed previous current).Nodup := nodup_eraseDups _
  rw [once.count]
  simp only [mem_removed_iff]

theorem start_mem_reconcile_iff {previous current : List Node} {unsubscribeRemoved : Bool}
    {uri : String} :
    .start uri ∈ reconcile previous current unsubscribeRemoved ↔
      .start uri ∈ starts current := by
  cases unsubscribeRemoved <;> simp [reconcile]

theorem stop_mem_reconcile_iff {previous current : List Node} {unsubscribeRemoved : Bool}
    {uri : String} :
    .stop uri ∈ reconcile previous current unsubscribeRemoved ↔
      unsubscribeRemoved = true ∧ uri ∈ removed previous current := by
  have silent : .stop uri ∉ starts current := by simp [starts]
  cases unsubscribeRemoved <;> simp [reconcile, silent]

/-- For one address a reconciliation starts as often as the address is displayed without listeners,
and stops once if it is displayed no longer. -/
theorem naming_reconcile (uri : String) (previous current : List Node)
    (unsubscribeRemoved : Bool) :
    naming uri (reconcile previous current unsubscribeRemoved) =
      List.replicate ((starts current).count (.start uri)) (.start uri) ++
        List.replicate
          (if unsubscribeRemoved ∧ uri ∈ addresses previous ∧ uri ∉ addresses current then 1 else 0)
          (.stop uri) := by
  rw [reconcile, naming_append, naming_starts]
  cases unsubscribeRemoved with
  | false => simp [naming]
  | true =>
      rw [if_pos rfl, naming_stops, count_removed]
      simp only [true_and]

theorem naming_release (uri : String) (nodes : List Node) :
    naming uri (release nodes) =
      List.replicate ((addresses nodes).count uri) (.stop uri) := by
  have split : release nodes = (addresses nodes).map .stop := by
    rw [release, addresses, List.map_map]
    rfl
  rw [split, naming_stops]

end Command

namespace Property

theorem countAfter_append (count : Nat) (first second : List Request) :
    countAfter count (first ++ second) = countAfter (countAfter count first) second :=
  List.foldl_append

theorem countAfter_starts (count number : Nat) (uri : String) :
    countAfter count ((List.replicate number (Command.start uri)).map .listen) =
      count + number := by
  induction number generalizing count with
  | zero => rfl
  | succ number ih =>
      have rest := ih (count + 1)
      rw [List.replicate_succ, List.map_cons]
      change countAfter (count + 1) _ = count + (number + 1)
      omega

theorem countAfter_stops (count number : Nat) (uri : String) :
    countAfter count ((List.replicate number (Command.stop uri)).map .listen) =
      count - number := by
  induction number generalizing count with
  | zero => rfl
  | succ number ih =>
      have rest := ih (count - 1)
      rw [List.replicate_succ, List.map_cons]
      change countAfter (count - 1) _ = count - (number + 1)
      omega

/-- What a reconciliation does to the count at an address. -/
theorem countAfter_reconcile (count : Nat) (uri : String) (previous current : List Node)
    (unsubscribeRemoved : Bool) :
    countAfter count (Request.naming uri
        ((Command.reconcile previous current unsubscribeRemoved).map .listen)) =
      count + (Command.starts current).count (.start uri) -
        if unsubscribeRemoved ∧ uri ∈ Command.addresses previous ∧
          uri ∉ Command.addresses current then 1 else 0 := by
  rw [Command.naming_listen, Command.naming_reconcile, List.map_append, countAfter_append,
    countAfter_starts, countAfter_stops]

/-- What giving back some nodes does to the count at an address. -/
theorem countAfter_release (count : Nat) (uri : String) (nodes : List Node) :
    countAfter count (Request.naming uri ((Command.release nodes).map .listen)) =
      count - (Command.addresses nodes).count uri := by
  rw [Command.naming_listen, Command.naming_release, countAfter_stops]

theorem hasRoom_reconcile {p : Property} {uri : String} {current : List Node}
    (few : p.listeners.toNat + (Command.starts current).count (.start uri) < UInt32.size)
    (previous : List Node) (unsubscribeRemoved : Bool) :
    p.HasRoom (Request.naming uri
      ((Command.reconcile previous current unsubscribeRemoved).map .listen)) := by
  apply hasRoom_of_starts
  rw [Command.naming_listen, Command.naming_reconcile, List.map_append, List.countP_append,
    List.map_replicate, List.map_replicate, List.countP_replicate, List.countP_replicate]
  exact few

/-- Giving back takes no room. -/
theorem hasRoom_release (p : Property) (uri : String) (nodes : List Node) :
    p.HasRoom (Request.naming uri ((Command.release nodes).map .listen)) := by
  apply hasRoom_of_starts
  rw [Command.naming_listen, Command.naming_release, List.map_replicate, List.countP_replicate]
  exact p.listeners.toNat_lt_size

end Property

namespace Service

theorem dispatch_eq_serveAll (service : Service) (commands : List Command) :
    service.dispatch commands = service.serveAll (commands.map .listen) := by
  induction commands generalizing service with
  | nil => rfl
  | cons command commands ih => exact ih (service.run command)

@[simp] theorem dispatch_nil (service : Service) : service.dispatch [] = service := rfl

theorem fetched_dispatch (service : Service) (commands : List Command) :
    (service.dispatch commands).snapshot.fetched = service.snapshot.fetched := by
  rw [dispatch_eq_serveAll, fetched_serveAll]

/-- A function that cannot tell counts apart sees no change in a batch. -/
theorem map_dispatch {f : Property → Property} (service : Service) (commands : List Command)
    (blind : ∀ (command : Command) p, f (command.change p) = f p) :
    (service.dispatch commands).snapshot.tree.map f = service.snapshot.tree.map f := by
  rw [dispatch_eq_serveAll]
  apply map_serveAll
  intro request member p
  obtain ⟨command, -, rfl⟩ := List.mem_map.mp member
  exact blind command p

/-- The count at an address after a batch. -/
theorem find?_dispatch {service : Service} {commands : List Command} {uri : String}
    {p : Property} (found : service.snapshot.tree.find? uri = some p)
    (room : p.HasRoom (Request.naming uri (commands.map .listen))) :
    ∃ q, (service.dispatch commands).snapshot.tree.find? uri = some q ∧ q.uri = p.uri ∧
      q.listeners.toNat =
        Property.countAfter p.listeners.toNat (Request.naming uri (commands.map .listen)) := by
  refine ⟨p.afterAll (Request.naming uri (commands.map .listen)), ?_, p.uri_afterAll _,
    p.toNat_afterAll _ room⟩
  rw [dispatch_eq_serveAll, find?_serveAll, found, Option.map_some]

end Service

end StoryMarkers
