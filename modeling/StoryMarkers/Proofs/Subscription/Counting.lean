import StoryMarkers.Proofs.Scene.WellFormed
import StoryMarkers.Proofs.Subscription.Session

set_option autoImplicit false

namespace StoryMarkers

namespace Scene

variable {tree : Tree} {settings : Settings}

/-- The nodes of a well formed tree ask once for each property without listeners. -/
theorem count_starts (well : tree.WellFormed settings.sceneRoot) {uri : String} {p : Property}
    (found : tree.find? uri = some p) :
    (Command.starts (nodesOf tree settings)).count (.start uri) =
      if uri ∈ Command.addresses (nodesOf tree settings) ∧ p.listeners = 0 then 1 else 0 := by
  have asked : 0 < (Command.starts (nodesOf tree settings)).count (.start uri) ↔
      uri ∈ Command.addresses (nodesOf tree settings) ∧ p.listeners = 0 := by
    rw [List.count_pos_iff]
    exact start_mem_starts_iff (addressed_nodesOf well.toWellAddressed) found
  have once := List.nodup_iff_count_le_one.mp (nodup_addresses well) uri
  have most := (Command.count_starts_le (nodesOf tree settings) uri).trans once
  by_cases due : uri ∈ Command.addresses (nodesOf tree settings) ∧ p.listeners = 0
  · rw [if_pos due]
    have some := asked.mpr due
    omega
  · rw [if_neg due]
    have none := mt asked.mp due
    omega

end Scene

namespace Session

variable {session : Session}

theorem wellFormed_refresh (well : session.tree.WellFormed session.settings.sceneRoot) :
    session.refresh.tree.WellFormed session.settings.sceneRoot :=
  (Tree.wellFormed_congr Property.uri_uncounted session.tree_refresh).mpr well

theorem wellFormed_unmount {sceneRoot : String} (well : session.tree.WellFormed sceneRoot) :
    session.unmount.tree.WellFormed sceneRoot :=
  (Tree.wellFormed_congr Property.uri_uncounted session.tree_unmount).mpr well

/-- After a batch the count of a property follows from the one at its address before, and from the
commands for that address. -/
theorem listeners_dispatch (well : session.tree.WellAddressed) {commands : List Command}
    {p : Property}
    (member : p ∈ (session.service.dispatch commands).snapshot.tree.allProperties) :
    ∃ q, session.tree.find? p.uri = some q ∧
      (q.HasRoom (Request.naming p.uri (commands.map .listen)) →
        p.listeners.toNat = Property.countAfter q.listeners.toNat
          (Request.naming p.uri (commands.map .listen))) := by
  -- The batch changes counts alone, so both trees are well addressed and have the same addresses.
  have same := session.service.map_dispatch commands Property.uncounted_change
  have later := (Tree.wellAddressed_congr Property.uri_uncounted same).mpr well
  have after := later.find?_of_mem member
  have known : (session.tree.find? p.uri).isSome := by
    rw [tree, ← Service.isSome_find?_serveAll, ← Service.dispatch_eq_serveAll, after]
    rfl
  obtain ⟨q, before⟩ := Option.isSome_iff_exists.mp known
  refine ⟨q, before, ?_⟩
  intro room
  obtain ⟨r, found, -, count⟩ := Service.find?_dispatch before room
  rw [after] at found
  cases found
  exact count

/-- A refresh asks for what is displayed without listeners, and gives back what is displayed no
longer if the watcher does that; every other count it leaves as it is. -/
theorem listeners_refresh (well : session.tree.WellFormed session.settings.sceneRoot)
    {p : Property} (member : p ∈ session.refresh.tree.allProperties) :
    ∃ q ∈ session.tree.allProperties, q.uri = p.uri ∧
      p.listeners.toNat =
        if p.uri ∈ session.refresh.followed then max q.listeners.toNat 1
        else if session.settings.unsubscribeRemoved ∧ p.uri ∈ session.followed then
          q.listeners.toNat - 1
        else q.listeners.toNat := by
  rw [tree, service_refresh, commands_update] at member
  obtain ⟨q, before, count⟩ := listeners_dispatch well.toWellAddressed member
  refine ⟨q, Tree.mem_allProperties_of_find? before, well.uri_of_find? before, ?_⟩
  have starts := Scene.count_starts well before
  rw [← nodes, ← followed_refresh] at starts
  have few : q.listeners.toNat + (Command.starts session.nodes).count (.start p.uri) <
      UInt32.size := by
    have below := q.listeners.toNat_lt_size
    rw [starts]
    split
    · rename_i due
      rw [due.2]
      decide
    · exact below
  have after := count (Property.hasRoom_reconcile few session.watcher.displayed
    session.settings.unsubscribeRemoved)
  rw [Property.countAfter_reconcile, starts, ← followed_refresh, ← followed] at after
  rw [after]
  by_cases shown : p.uri ∈ session.refresh.followed
  · by_cases idle : q.listeners = 0
    · simp [shown, idle]
    · have some : q.listeners.toNat ≠ 0 := fun zero => idle (UInt32.toNat_inj.mp zero)
      simp only [shown, idle, and_false, ↓reduceIte, not_true_eq_false]
      omega
  · by_cases given : session.settings.unsubscribeRemoved ∧ p.uri ∈ session.followed
    · simp [shown, given]
    · simp only [shown, given, false_and, ↓reduceIte, not_false_eq_true, and_true]
      omega

/-- As long as nothing has more than one listener, what a refresh displays has one, what it gives
back has none, and all else keeps those it had. -/
theorem refresh_cases (well : session.tree.WellFormed session.settings.sceneRoot)
    (once : session.tree.HeardOnce) {p : Property}
    (member : p ∈ session.refresh.tree.allProperties) :
    (p.uri ∈ session.refresh.followed ∧ p.listeners = 1) ∨
    (p.uri ∉ session.refresh.followed ∧ session.settings.unsubscribeRemoved = true ∧
      p.uri ∈ session.followed ∧ p.listeners = 0) ∨
    (p.uri ∉ session.refresh.followed ∧
      (session.settings.unsubscribeRemoved = true → p.uri ∉ session.followed) ∧
      ∃ q ∈ session.tree.allProperties, q.uri = p.uri ∧ q.listeners = p.listeners) := by
  obtain ⟨q, before, same, count⟩ := listeners_refresh well member
  have few := once.toNat_le_one before
  by_cases shown : p.uri ∈ session.refresh.followed
  · have one : p.listeners = 1 := by
      apply UInt32.toNat_inj.mp
      rw [count, if_pos shown, UInt32.toNat_one]
      omega
    exact Or.inl ⟨shown, one⟩
  · rw [if_neg shown] at count
    right
    by_cases given : session.settings.unsubscribeRemoved = true ∧ p.uri ∈ session.followed
    · have none : p.listeners = 0 := by
        apply UInt32.toNat_inj.mp
        rw [count, if_pos given, UInt32.toNat_zero]
        omega
      exact Or.inl ⟨shown, given.1, given.2, none⟩
    · rw [if_neg given] at count
      have kept : q.listeners = p.listeners := UInt32.toNat_inj.mp count.symm
      exact Or.inr ⟨shown, fun gives held => given ⟨gives, held⟩, q, before, same, kept⟩

/-- What is displayed after a refresh has a property of its own. -/
theorem find?_of_followed (well : session.tree.WellFormed session.settings.sceneRoot)
    {uri : String} (shown : uri ∈ session.refresh.followed) :
    ∃ p ∈ session.refresh.tree.allProperties,
      session.refresh.tree.find? uri = some p ∧ p.uri = uri := by
  obtain ⟨q, tracked, rfl⟩ := List.mem_map.mp shown
  have before : session.tree.find? q.uri = some q :=
    Scene.find?_of_mem_tracked (Scene.addressed_nodesOf well.toWellAddressed) tracked
  have known : (session.refresh.tree.find? q.uri).isSome := by
    rw [tree, service_refresh, Service.dispatch_eq_serveAll, Service.isSome_find?_serveAll]
    exact Option.isSome_iff_exists.mpr ⟨q, before⟩
  obtain ⟨p, after⟩ := Option.isSome_iff_exists.mp known
  exact ⟨p, Tree.mem_allProperties_of_find? after, after,
    (wellFormed_refresh well).uri_of_find? after⟩

theorem listeners_unmount (well : session.tree.WellAddressed) {p : Property}
    (member : p ∈ session.unmount.tree.allProperties) :
    ∃ q ∈ session.tree.allProperties, q.uri = p.uri ∧
      p.listeners.toNat = q.listeners.toNat - session.followed.count p.uri := by
  rw [tree, service_unmount] at member
  obtain ⟨q, before, count⟩ := listeners_dispatch well member
  have after := count (q.hasRoom_release p.uri session.watcher.displayed)
  rw [Property.countAfter_release, ← followed] at after
  exact ⟨q, Tree.mem_allProperties_of_find? before, well.uri_of_find? before, after⟩

/-- As long as nothing has more than one listener, what was displayed has none once the watcher has
left the scene, and all else keeps those it had. -/
theorem unmount_cases (well : session.tree.WellAddressed) (once : session.tree.HeardOnce)
    {p : Property} (member : p ∈ session.unmount.tree.allProperties) :
    (p.uri ∈ session.followed ∧ p.listeners = 0) ∨
    (p.uri ∉ session.followed ∧
      ∃ q ∈ session.tree.allProperties, q.uri = p.uri ∧ q.listeners = p.listeners) := by
  obtain ⟨q, before, same, count⟩ := listeners_unmount well member
  by_cases held : p.uri ∈ session.followed
  · have few := once.toNat_le_one before
    have given := List.count_pos_iff.mpr held
    have none : p.listeners = 0 := by
      apply UInt32.toNat_inj.mp
      rw [count, UInt32.toNat_zero]
      omega
    exact Or.inl ⟨held, none⟩
  · rw [List.count_eq_zero.mpr held, Nat.sub_zero] at count
    exact Or.inr ⟨held, q, before, same, UInt32.toNat_inj.mp count.symm⟩

end Session

end StoryMarkers
