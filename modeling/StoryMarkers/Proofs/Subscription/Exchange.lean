import StoryMarkers.Proofs.Subscription.Listeners
import StoryMarkers.Proofs.Tree.Commuting

set_option autoImplicit false

namespace StoryMarkers

namespace Property

/-- Of all properties with the given address the last one that somebody listens to. -/
def lastHeard? (uri : String) (properties : List Property) : Option Property :=
  (properties.filter fun p => p.uri = uri ∧ p.listeners ≠ 0).getLast?

/-- What properties make of a count at an address when each in turn puts its own there. -/
def broughtCount (uri : String) (properties : List Property) (count : UInt32) : UInt32 :=
  match lastHeard? uri properties with
  | some p => p.listeners
  | none => count

theorem name_setListeners (count : UInt32) (p : Property) :
    Uri.name (p.setListeners count).uri = Uri.name p.uri := rfl

variable {uri : String} {properties : List Property} {p : Property} {count : UInt32}

theorem lastHeard?_cons :
    lastHeard? uri (p :: properties) =
      if p.uri = uri ∧ p.listeners ≠ 0 then some ((lastHeard? uri properties).getD p)
      else lastHeard? uri properties := by
  simp only [lastHeard?, List.filter_cons, decide_eq_true_eq]
  split
  · rw [List.getLast?_cons]
  · rfl

theorem broughtCount_cons :
    broughtCount uri (p :: properties) count =
      broughtCount uri properties
        (if p.uri = uri ∧ p.listeners ≠ 0 then p.listeners else count) := by
  rw [broughtCount, broughtCount, lastHeard?_cons]
  by_cases due : p.uri = uri ∧ p.listeners ≠ 0
  · rw [if_pos due, if_pos due]
    cases lastHeard? uri properties <;> rfl
  · rw [if_neg due, if_neg due]

theorem lastHeard?_eq_none_iff :
    lastHeard? uri properties = none ↔ ∀ p ∈ properties, p.uri = uri → p.listeners = 0 := by
  simp [lastHeard?]

theorem mem_of_lastHeard? (last : lastHeard? uri properties = some p) :
    p ∈ properties ∧ p.uri = uri ∧ p.listeners ≠ 0 := by
  obtain ⟨member, heard⟩ := List.mem_filter.mp (List.mem_of_getLast? last)
  exact ⟨member, of_decide_eq_true heard⟩

/-- What is brought is not zero. -/
theorem eq_zero_of_broughtCount (none : broughtCount uri properties count = 0) : count = 0 := by
  rw [broughtCount] at none
  split at none
  · rename_i last
    exact absurd none (mem_of_lastHeard? last).2.2
  · exact none

/-- Where addresses are told apart, the one property that has the address decides. -/
theorem broughtCount_of_mem (distinct : (properties.map (·.uri)).Nodup) (member : p ∈ properties)
    (count : UInt32) :
    broughtCount p.uri properties count = if p.listeners = 0 then count else p.listeners := by
  have only : ∀ q ∈ properties, q.uri = p.uri → q = p :=
    fun q inside same => List.inj_on_of_nodup_map distinct inside member same
  cases last : lastHeard? p.uri properties with
  | none =>
      have idle := lastHeard?_eq_none_iff.mp last p member rfl
      rw [broughtCount, last, if_pos idle]
  | some q =>
      obtain ⟨inside, same, heard⟩ := mem_of_lastHeard? last
      rw [only q inside same] at last heard
      rw [broughtCount, last, if_neg heard]

end Property

namespace Service

open Property (lastHeard? broughtCount)

variable {service : Service} {tree : Tree} {uri : String} {p q : Property}

theorem carry_cons (tree : Tree) (p : Property) (properties : List Property) :
    carry tree (p :: properties) =
      carry (if p.listeners = 0 then tree else tree.update p.uri (·.setListeners p.listeners))
        properties := by
  rw [carry, carry, List.filter_cons]
  by_cases idle : p.listeners = 0
  · simp [idle]
  · simp [idle]

/-- Whatever the trees look like, an address is told apart by its text alone, so what properties of
other addresses bring goes elsewhere. -/
theorem find?_carry (tree : Tree) (properties : List Property) (uri : String) :
    (carry tree properties).find? uri =
      (tree.find? uri).map fun p =>
        p.setListeners (broughtCount uri properties p.listeners) := by
  induction properties generalizing tree with
  | nil =>
      have kept : ∀ p : Property, p.setListeners (broughtCount uri [] p.listeners) = p :=
        fun _ => rfl
      simp only [kept, Option.map_id']
      rfl
  | cons first rest ih =>
      rw [carry_cons, ih]
      by_cases idle : first.listeners = 0
      · simp only [idle, ↓reduceIte, Property.broughtCount_cons, ne_eq, not_true_eq_false,
          and_false]
      · rw [if_neg idle, Tree.find?_update (Property.name_setListeners first.listeners)]
        by_cases same : uri = first.uri
        · subst same
          simp only [↓reduceIte, Property.broughtCount_cons, idle, ne_eq, not_false_eq_true,
            and_self, Option.map_map]
          rfl
        · simp only [same, Ne.symm same, ↓reduceIte, Property.broughtCount_cons, false_and]

theorem slot?_carry (tree : Tree) (properties : List Property) (uri : String) :
    (carry tree properties).slot? uri = tree.slot? uri := by
  have blind : ∀ p : Property, Uri.name p.uncounted.uri = Uri.name p.uri := fun _ => rfl
  rw [← Tree.slot?_map blind (carry tree properties), uncounted_carry, Tree.slot?_map blind]

/-- A tree whose addresses say where properties stand takes over the counts slot by slot. -/
theorem get?_carry (well : tree.WellAddressed) (properties : List Property) (slot : Slot) :
    (carry tree properties).get? slot =
      (tree.get? slot).map fun p =>
        p.setListeners (broughtCount p.uri properties p.listeners) := by
  cases present : tree.get? slot with
  | none =>
      have shape := congrArg (·.get? slot) (uncounted_carry tree properties)
      simp only [Tree.get?_map, present, Option.map_none, Option.map_eq_none_iff] at shape
      rw [shape, Option.map_none]
  | some p =>
      have reached : tree.slot? p.uri = some slot := well.slot?_of_get? present
      have found : tree.find? p.uri = some p := Tree.find?_eq_some_iff.mpr ⟨slot, reached, present⟩
      have carried := find?_carry tree properties p.uri
      rwa [Tree.find?, slot?_carry, reached, Option.bind_some, found] at carried

/-- Counts of one are carried as they are, and to their own addresses. -/
theorem heardWithin_carry {uris : List String} (well : tree.WellAddressed)
    (heard : tree.HeardWithin uris) {properties : List Property}
    (counted : ∀ p ∈ properties, p.listeners = 0 ∨ p.listeners = 1 ∧ p.uri ∈ uris) :
    (carry tree properties).HeardWithin uris := by
  intro p member
  obtain ⟨slot, taken⟩ := Tree.mem_allProperties_iff.mp member
  rw [get?_carry well, Option.map_eq_some_iff] at taken
  obtain ⟨q, present, rfl⟩ := taken
  change broughtCount q.uri properties q.listeners = 0 ∨
    broughtCount q.uri properties q.listeners = 1 ∧ q.uri ∈ uris
  rw [broughtCount]
  cases last : lastHeard? q.uri properties with
  | none => exact heard q (Tree.mem_allProperties_iff.mpr ⟨slot, present⟩)
  | some r =>
      obtain ⟨inside, same, some⟩ := Property.mem_of_lastHeard? last
      exact same ▸ counted r inside

theorem wellAddressed_carry (properties : List Property) :
    (carry tree properties).WellAddressed ↔ tree.WellAddressed :=
  Tree.wellAddressed_congr Property.uri_uncounted (uncounted_carry tree properties)

/-- What was taken over once is not changed by taking it over again. -/
theorem carry_carry (well : tree.WellAddressed) (properties : List Property) :
    carry tree (carry tree properties).allProperties = carry tree properties := by
  have shape : (carry tree (carry tree properties).allProperties).map Property.uncounted =
      (carry tree properties).map Property.uncounted := by
    rw [uncounted_carry, uncounted_carry]
  apply Tree.ext_get? shape
  intro slot
  have taken := get?_carry well properties slot
  rw [get?_carry well]
  cases present : tree.get? slot with
  | none =>
      rw [present] at taken
      exact taken.symm
  | some p =>
      rw [present, Option.map_some] at taken
      have member := Tree.mem_allProperties_iff.mpr ⟨slot, taken⟩
      have distinct := ((wellAddressed_carry properties).mpr well).distinct
      have again : broughtCount p.uri (carry tree properties).allProperties p.listeners =
          if broughtCount p.uri properties p.listeners = 0 then p.listeners
          else broughtCount p.uri properties p.listeners :=
        Property.broughtCount_of_mem distinct member p.listeners
      rw [taken, Option.map_some, again]
      by_cases none : broughtCount p.uri properties p.listeners = 0
      · rw [if_pos none, none, Property.eq_zero_of_broughtCount none]
      · rw [if_neg none]

/-- A fresh tree takes over every live count at its own address and nothing else. Of both trees the
addresses say where their properties stand. Then the tree that comes out is the fresh one up to its
counts; a property has the count of the old property of the same address if that is positive, and
otherwise the count it came with; and to exchange the tree for the same one again changes
nothing. -/
theorem replaceTree_carries_live_counts (service : Service) (tree : Tree)
    (old : service.snapshot.tree.WellAddressed) (fresh : tree.WellAddressed) :
    let after := service.replaceTree tree
    after.snapshot.tree.map Property.uncounted = tree.map Property.uncounted ∧
    (∀ slot p, tree.get? slot = some p →
      ∃ count, after.snapshot.tree.get? slot = some (p.setListeners count) ∧
        (∀ q ∈ service.snapshot.tree.allProperties, q.uri = p.uri → 0 < q.listeners →
          count = q.listeners) ∧
        ((∀ q ∈ service.snapshot.tree.allProperties, q.uri = p.uri → q.listeners = 0) →
          count = p.listeners)) ∧
    after.snapshot.fetched = service.snapshot.fetched ∧
    after.requests = service.requests ∧
    after.replaceTree tree = after := by
  intro after
  refine ⟨uncounted_carry tree _, ?_, rfl, rfl, ?_⟩
  · intro slot p present
    have taken := get?_carry fresh service.snapshot.tree.allProperties slot
    rw [present, Option.map_some] at taken
    refine ⟨_, taken, ?_, ?_⟩
    · intro q member same positive
      have heard : q.listeners ≠ 0 := by
        rintro none
        rw [none] at positive
        exact UInt32.lt_irrefl 0 positive
      rw [← same, Property.broughtCount_of_mem old.distinct member, if_neg heard]
    · intro idle
      rw [broughtCount, Property.lastHeard?_eq_none_iff.mpr idle]
  · have again : carry tree after.snapshot.tree.allProperties = after.snapshot.tree :=
      carry_carry fresh service.snapshot.tree.allProperties
    change ({ after with snapshot := { after.snapshot with tree := carry tree _ } } : Service) = after
    rw [again]

/-- Mars and the moon, each with a count of its own. -/
def orbits (mars moon : UInt32) : List Owner := [
  { identifier := "Mars", properties := [{ uri := "Mars.Size", value := "", listeners := mars }] },
  { identifier := "Moon", properties := [{ uri := "Moon.Size", value := "", listeners := moon }] }]

/-- The owners change places, and a property of the root goes. -/
theorem orbits_change_places :
    let service : Service := {
      snapshot := {
        tree := {
          subowners := orbits 3 0
          properties := [{ uri := "Epoch", value := "", listeners := 5 }] } } }
    let tree : Tree := { subowners := (orbits 0 2).reverse }
    let after := service.replaceTree tree
    service.snapshot.tree.WellAddressed ∧ tree.WellAddressed ∧
      after.snapshot.tree.allProperties.map (·.listeners) = [2, 3] ∧
      after.snapshot.tree.get? ⟨[1], 0⟩ =
        some { uri := "Mars.Size", value := "", listeners := 3 } ∧
      after.replaceTree tree = after := by
  intro service tree after
  have old : service.snapshot.tree.WellAddressed := by decide
  have fresh : tree.WellAddressed := by decide
  obtain ⟨-, counts, -, -, again⟩ := replaceTree_carries_live_counts service tree old fresh
  obtain ⟨count, taken, live, -⟩ :=
    counts ⟨[1], 0⟩ { uri := "Mars.Size", value := "", listeners := 0 } rfl
  rw [live { uri := "Mars.Size", value := "", listeners := 3 } (by decide) rfl (by decide)] at taken
  exact ⟨old, fresh, by decide, taken, again⟩

theorem listeners?_replaceTree (incoming : tree.find? uri = some p) :
    (service.replaceTree tree).listeners? uri =
      some (broughtCount uri service.snapshot.tree.allProperties p.listeners) := by
  change ((carry tree service.snapshot.tree.allProperties).find? uri).map (·.listeners) = _
  rw [find?_carry, incoming]
  rfl

/-- The count at an address does not always survive the exchange of the tree. What is found there
afterwards is the count of the last property that the old tree lists under that address and that
somebody listens to, wherever it stands, and the count that came with the fresh tree if there is
none. So the count survives exactly if that is the one found before. In a tree whose addresses say
where its properties stand this fails only for a count of zero, which gives way to any that the
fresh tree comes with. -/
theorem listeners?_replaceTree_eq_iff (service : Service) (tree : Tree) (uri : String)
    (before : service.snapshot.tree.find? uri = some q) (incoming : tree.find? uri = some p) :
    let listed := service.snapshot.tree.allProperties
    let kept := (service.replaceTree tree).listeners? uri = service.listeners? uri
    (∀ r, lastHeard? uri listed = some r →
      (service.replaceTree tree).listeners? uri = some r.listeners ∧
        (kept ↔ r.listeners = q.listeners)) ∧
    (lastHeard? uri listed = none →
      (service.replaceTree tree).listeners? uri = some p.listeners ∧
        (kept ↔ p.listeners = q.listeners)) ∧
    (service.snapshot.tree.WellAddressed →
      (kept ↔ (q.listeners = 0 → p.listeners = 0))) := by
  intro listed kept
  have after : (service.replaceTree tree).listeners? uri =
      some (broughtCount uri listed p.listeners) := listeners?_replaceTree incoming
  have exact : kept ↔ broughtCount uri listed p.listeners = q.listeners := by
    change (service.replaceTree tree).listeners? uri = service.listeners? uri ↔ _
    rw [after, listeners?, before, Option.map_some, Option.some.injEq]
  refine ⟨?_, ?_, ?_⟩
  · intro r last
    rw [after, exact, broughtCount, last]
    exact ⟨rfl, Iff.rfl⟩
  · intro none
    rw [after, exact, broughtCount, none]
    exact ⟨rfl, Iff.rfl⟩
  · intro well
    have spelled : q.uri = uri := well.uri_of_find? before
    have own : broughtCount uri listed p.listeners =
        if q.listeners = 0 then p.listeners else q.listeners := by
      rw [← spelled]
      exact Property.broughtCount_of_mem well.distinct (Tree.mem_allProperties_of_find? before) _
    rw [exact, own]
    by_cases idle : q.listeners = 0
    · simp [idle]
    · simp [idle]

/-- A count of zero is overwritten by the fresh tree, a count of one by that of a hidden namesake,
and a count of one under an address that its property does not have is lost. -/
theorem replaceTree_miscounts :
    let idle : Service := {
      snapshot := { tree := { properties := [{ uri := "Size", value := "" }] } } }
    let fresh : Tree := { properties := [{ uri := "Size", value := "", listeners := 5 }] }
    let namesakes : Service := {
      snapshot := { tree := { subowners := orbits 0 1 ++ orbits 0 7 } } }
    let astray : Service := {
      snapshot := {
        tree := {
          subowners := [
            { identifier := "Moon"
              properties := [{ uri := "Size", value := "", listeners := 1 }] }] } } }
    let unheard : Tree := {
      subowners := [{ identifier := "Moon", properties := [{ uri := "Size", value := "" }] }] }
    idle.listeners? "Size" = some 0 ∧ (idle.replaceTree fresh).listeners? "Size" = some 5 ∧
      namesakes.listeners? "Moon.Size" = some 1 ∧
      (namesakes.replaceTree namesakes.snapshot.tree).listeners? "Moon.Size" = some 7 ∧
      astray.listeners? "Moon.Size" = some 1 ∧
      (astray.replaceTree unheard).listeners? "Moon.Size" = some 0 := by
  decide

theorem idle_size_gives_way :
    let service : Service := {
      snapshot := { tree := { properties := [{ uri := "Size", value := "" }] } } }
    let tree : Tree := { properties := [{ uri := "Size", value := "", listeners := 5 }] }
    service.snapshot.tree.find? "Size" = some { uri := "Size", value := "" } ∧
      tree.find? "Size" = some { uri := "Size", value := "", listeners := 5 } ∧
      service.snapshot.tree.WellAddressed ∧
      (service.replaceTree tree).listeners? "Size" ≠ service.listeners? "Size" := by
  intro service tree
  have before : service.snapshot.tree.find? "Size" = some { uri := "Size", value := "" } := by
    decide
  have incoming : tree.find? "Size" = some { uri := "Size", value := "", listeners := 5 } := by
    decide
  have well : service.snapshot.tree.WellAddressed := by decide
  have survives := (listeners?_replaceTree_eq_iff service tree "Size" before incoming).2.2 well
  refine ⟨before, incoming, well, ?_⟩
  intro kept
  exact absurd (survives.mp kept rfl) (by decide)

end Service

end StoryMarkers
