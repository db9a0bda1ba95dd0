import StoryMarkers.Proofs.Subscription.Batches
import StoryMarkers.Proofs.Subscription.Listeners
import StoryMarkers.Subscription.Watcher

set_option autoImplicit false

namespace StoryMarkers

theorem Watcher.commands_update (watcher : Watcher) (snapshot : Snapshot) :
    (watcher.update snapshot).2.commands =
      Command.reconcile watcher.displayed (Scene.nodesOf snapshot.tree watcher.settings)
        watcher.settings.unsubscribeRemoved := rfl

structure Session where
  watcher : Watcher := {}
  service : Service := {}

namespace Session

def tree (session : Session) : Tree := session.service.snapshot.tree

def settings (session : Session) : Settings := session.watcher.settings

/-- The nodes that the snapshot of the service has for the watcher. -/
def nodes (session : Session) : List Node := Scene.nodesOf session.tree session.settings

/-- The addresses that the watcher displays. -/
def followed (session : Session) : List String := Command.addresses session.watcher.displayed

/-- What follows from the snapshot of the service. -/
def update (session : Session) : Update :=
  (session.watcher.update session.service.snapshot).2

/-- The watcher takes the snapshot of the service and makes the requests that follow from it. -/
def refresh (session : Session) : Session where
  watcher := (session.watcher.update session.service.snapshot).1
  service := session.service.dispatch session.update.commands

/-- The watcher leaves the scene and gives back what it displayed. -/
def unmount (session : Session) : Session where
  watcher := session.watcher.unmount.1
  service := session.service.dispatch session.watcher.unmount.2

theorem commands_update (session : Session) :
    session.update.commands = Command.reconcile session.watcher.displayed session.nodes
      session.settings.unsubscribeRemoved :=
  session.watcher.commands_update session.service.snapshot

theorem service_refresh (session : Session) :
    session.refresh.service = session.service.dispatch session.update.commands := rfl

theorem service_unmount (session : Session) :
    session.unmount.service =
      session.service.dispatch (Command.release session.watcher.displayed) := rfl

theorem commands_unmount (session : Session) :
    session.watcher.unmount.2 = Command.release session.watcher.displayed := rfl

theorem displayed_refresh (session : Session) :
    session.refresh.watcher.displayed = session.nodes := rfl

theorem displayed_unmount (session : Session) : session.unmount.watcher.displayed = [] := rfl

theorem followed_refresh (session : Session) :
    session.refresh.followed = Command.addresses session.nodes := rfl

@[simp] theorem settings_refresh (session : Session) :
    session.refresh.settings = session.settings := rfl

end Session

namespace Property

theorem uncounted_change (command : Command) (p : Property) :
    (command.change p).uncounted = p.uncounted := by
  cases command <;> rfl

end Property

theorem Command.addresses_map {f : Property → Property} (keeps : ∀ p, (f p).uri = p.uri)
    (nodes : List Node) : addresses (nodes.map (Node.map f)) = addresses nodes := by
  simp only [addresses, tracked, List.flatMap_map, Node.properties_map, List.map_flatMap,
    List.map_map, Function.comp_def, keeps]

namespace Scene

/-- The properties of nodes under whose addresses they were found are found under their own. -/
theorem find?_of_mem_tracked {tree : Tree} {settings : Settings}
    (addressed : Node.Addressed settings.sceneRoot (nodesOf tree settings)) {p : Property}
    (followed : p ∈ Command.tracked (nodesOf tree settings)) : tree.find? p.uri = some p := by
  obtain ⟨node, member, kind, rfl⟩ := Command.mem_tracked_iff.mp followed
  rw [addressed node member kind]
  exact find?_of_mem_nodesOf member kind

/-- Nodes ask for an address exactly if they follow it and nobody listens there. -/
theorem start_mem_starts_iff {tree : Tree} {settings : Settings}
    (addressed : Node.Addressed settings.sceneRoot (nodesOf tree settings)) {uri : String}
    {p : Property} (found : tree.find? uri = some p) :
    .start uri ∈ Command.starts (nodesOf tree settings) ↔
      uri ∈ Command.addresses (nodesOf tree settings) ∧ p.listeners = 0 := by
  have same : ∀ q ∈ Command.tracked (nodesOf tree settings), q.uri = uri → q = p := by
    rintro q followed rfl
    have here := find?_of_mem_tracked addressed followed
    rw [found] at here
    exact (Option.some.inj here).symm
  rw [Command.start_mem_starts_iff, Command.addresses, List.mem_map]
  constructor
  · rintro ⟨q, followed, idle, spelled⟩
    have equal := same q followed spelled
    exact ⟨⟨q, followed, spelled⟩, equal ▸ idle⟩
  · rintro ⟨⟨q, followed, spelled⟩, idle⟩
    have equal := same q followed spelled
    exact ⟨q, followed, equal ▸ idle, spelled⟩

theorem nodesOf_uncounted (tree : Tree) (settings : Settings) :
    nodesOf (tree.map Property.uncounted) settings =
      (nodesOf tree settings).map (Node.map Property.uncounted) :=
  nodesOf_map Property.uri_uncounted Property.value_uncounted tree settings

/-- Trees that differ in counts alone have the same nodes up to counts. -/
theorem nodesOf_congr {tree other : Tree}
    (same : tree.map Property.uncounted = other.map Property.uncounted) (settings : Settings) :
    (nodesOf tree settings).map (Node.map Property.uncounted) =
      (nodesOf other settings).map (Node.map Property.uncounted) := by
  rw [← nodesOf_uncounted, same, nodesOf_uncounted]

theorem addresses_congr {tree other : Tree}
    (same : tree.map Property.uncounted = other.map Property.uncounted) (settings : Settings) :
    Command.addresses (nodesOf tree settings) = Command.addresses (nodesOf other settings) := by
  rw [← Command.addresses_map Property.uri_uncounted, nodesOf_congr same,
    Command.addresses_map Property.uri_uncounted]

theorem markers_congr {tree other : Tree}
    (same : tree.map Property.uncounted = other.map Property.uncounted) (settings : Settings)
    (catalog : Catalog) (policy : Policy) :
    markers ⟨nodesOf tree settings, catalog⟩ policy =
      markers ⟨nodesOf other settings, catalog⟩ policy := by
  have blind : ∀ nodes : List Node,
      markers ⟨nodes.map (Node.map Property.uncounted), catalog⟩ policy =
        markers ⟨nodes, catalog⟩ policy := by
    intro nodes
    exact markers_map Property.uri_uncounted Property.value_uncounted Property.quoted_uncounted
      nodes catalog policy
  rw [← blind, nodesOf_congr same, blind]

end Scene

namespace Session

theorem tree_refresh (session : Session) :
    session.refresh.tree.map Property.uncounted = session.tree.map Property.uncounted := by
  rw [tree, service_refresh]
  exact session.service.map_dispatch _ Property.uncounted_change

theorem tree_unmount (session : Session) :
    session.unmount.tree.map Property.uncounted = session.tree.map Property.uncounted := by
  rw [tree, service_unmount]
  exact session.service.map_dispatch _ Property.uncounted_change

/-- A refresh leaves the nodes as they are up to counts. -/
theorem nodes_refresh (session : Session) :
    session.refresh.nodes.map (Node.map Property.uncounted) =
      session.nodes.map (Node.map Property.uncounted) :=
  Scene.nodesOf_congr session.tree_refresh session.settings

/-- A refresh shows what the tree has after it, too. -/
theorem addresses_nodes_refresh (session : Session) :
    Command.addresses session.refresh.nodes = session.refresh.followed := by
  rw [followed_refresh, nodes, nodes, settings_refresh]
  exact Scene.addresses_congr session.tree_refresh session.settings

theorem markers_update (session : Session) :
    session.update.markers =
      Scene.markers ⟨session.nodes, Catalog.ofFetched session.service.snapshot.fetched
        session.settings.infoIconKey⟩ session.settings.policy := rfl

theorem markers_update_refresh (session : Session) :
    session.refresh.update.markers = session.update.markers := by
  have fetched : session.refresh.service.snapshot.fetched =
      session.service.snapshot.fetched := by
    rw [service_refresh, Service.fetched_dispatch]
  rw [markers_update, markers_update, fetched, settings_refresh, nodes, nodes, settings_refresh]
  exact Scene.markers_congr session.tree_refresh session.settings _ _

end Session

end StoryMarkers
