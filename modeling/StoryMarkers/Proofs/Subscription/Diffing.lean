import StoryMarkers.Proofs.Subscription.Indifference

set_option autoImplicit false

namespace StoryMarkers

namespace Command

/-- One pass over addresses. An address is taken unless it is live or has been seen before, and
counts as seen from then on. -/
def takeNew (live seen : List String) : List String → List String
  | [] => []
  | uri :: rest =>
    if uri ∈ live ∨ uri ∈ seen then takeNew live seen rest
    else uri :: takeNew live (uri :: seen) rest

theorem takeNew_of_known {live seen rest : List String} {uri : String}
    (known : uri ∈ live ∨ uri ∈ seen) :
    takeNew live seen (uri :: rest) = takeNew live seen rest :=
  if_pos known

theorem takeNew_of_new {live seen rest : List String} {uri : String}
    (new : ¬ (uri ∈ live ∨ uri ∈ seen)) :
    takeNew live seen (uri :: rest) = uri :: takeNew live (uri :: seen) rest :=
  if_neg new

/-- The pass filters and removes repetitions at once. -/
theorem eraseDups_filter_eq_takeNew (live seen uris : List String) :
    (uris.filter fun uri => uri ∉ live ∧ uri ∉ seen).eraseDups = takeNew live seen uris := by
  induction uris generalizing seen with
  | nil => rfl
  | cons uri rest ih =>
      by_cases known : uri ∈ live ∨ uri ∈ seen
      · have dropped : ¬ (uri ∉ live ∧ uri ∉ seen) := by
          rintro ⟨out, unseen⟩
          exact known.elim out unseen
        rw [takeNew_of_known known, List.filter_cons_of_neg (by simpa using dropped), ih]
      · have kept : uri ∉ live ∧ uri ∉ seen := not_or.mp known
        rw [takeNew_of_new known, List.filter_cons_of_pos (by simpa using kept),
          List.eraseDups_cons, List.filter_filter, ← ih]
        congr 3
        funext other
        simp only [List.mem_cons, not_or, beq_eq_decide]
        by_cases same : other = uri
        · simp [same]
        · simp [same]

theorem removed_eq_takeNew (previous current : List Node) :
    removed previous current = takeNew (addresses current) [] (addresses previous) := by
  rw [removed, ← eraseDups_filter_eq_takeNew]
  congr 1
  apply List.filter_congr
  intro uri _
  simp only [List.contains_eq_mem, List.not_mem_nil, not_false_eq_true, and_true, decide_not]
  rfl

theorem mem_takeNew_iff {live seen uris : List String} {uri : String} :
    uri ∈ takeNew live seen uris ↔ uri ∈ uris ∧ uri ∉ live ∧ uri ∉ seen := by
  rw [← eraseDups_filter_eq_takeNew]
  simp

/-- The pass keeps the order in which addresses come first. -/
theorem pairwise_takeNew (live seen uris : List String) :
    (takeNew live seen uris).Pairwise fun first second =>
      uris.idxOf first < uris.idxOf second := by
  induction uris generalizing seen with
  | nil => exact List.Pairwise.nil
  | cons uri rest ih =>
      -- Whatever is taken from the rest comes later by one than it does there.
      have later : ∀ {first second : String}, first ≠ uri → second ≠ uri →
          rest.idxOf first < rest.idxOf second →
          (uri :: rest).idxOf first < (uri :: rest).idxOf second := by
        intro first second apart apart' before
        rw [List.idxOf_cons_ne _ apart.symm, List.idxOf_cons_ne _ apart'.symm]
        exact Nat.succ_lt_succ before
      by_cases known : uri ∈ live ∨ uri ∈ seen
      · have apart : ∀ other ∈ takeNew live seen rest, other ≠ uri := by
          rintro other taken rfl
          obtain ⟨-, out, unseen⟩ := mem_takeNew_iff.mp taken
          exact known.elim out unseen
        rw [takeNew_of_known known]
        apply (ih seen).imp_of_mem
        intro first second taken taken' before
        exact later (apart first taken) (apart second taken') before
      · have apart : ∀ other ∈ takeNew live (uri :: seen) rest, other ≠ uri := by
          rintro other taken rfl
          exact (mem_takeNew_iff.mp taken).2.2 List.mem_cons_self
        rw [takeNew_of_new known, List.pairwise_cons]
        constructor
        · intro other taken
          rw [List.idxOf_cons_self, List.idxOf_cons_ne _ (apart other taken).symm]
          exact Nat.succ_pos _
        · apply (ih (uri :: seen)).imp_of_mem
          intro first second taken taken' before
          exact later (apart first taken) (apart second taken') before

/-- Each node in turn asks for those of its properties, in their fixed order, that nobody listens
to. -/
theorem starts_eq (nodes : List Node) :
    starts nodes = nodes.flatMap fun node =>
      (Tracked.all.filter fun kind => (node.property kind).listeners = 0).map fun kind =>
        .start (node.property kind).uri := by
  induction nodes with
  | nil => rfl
  | cons node rest ih => rw [starts_cons, ih, List.flatMap_cons]

/-- Whether one of some nodes follows an address. -/
def Follows (nodes : List Node) (uri : String) : Prop :=
  ∃ node ∈ nodes, ∃ kind, (node.property kind).uri = uri

theorem follows_iff {nodes : List Node} {uri : String} :
    Follows nodes uri ↔ uri ∈ addresses nodes :=
  mem_addresses_iff.symm

/-- Nodes that differ in counts alone follow the same addresses. -/
theorem addresses_uncounted {nodes other : List Node}
    (same : nodes.map (Node.map Property.uncounted) = other.map (Node.map Property.uncounted)) :
    addresses nodes = addresses other := by
  rw [← addresses_map Property.uri_uncounted nodes, same, addresses_map Property.uri_uncounted]

/-- Reconciliation is an exact difference. First comes a start for every property of every current
node that nobody listens to, in the order of the nodes and of their properties. If what is gone is
to be given back, there follows a stop for every address that was followed before and is not now,
once, in the order in which the addresses came first, whatever the counts; otherwise there is none.
So nothing is stopped where everything followed before is followed now. -/
theorem reconcile_is_exact_difference (previous current : List Node) :
    ∃ gone : List String,
      (∀ unsubscribeRemoved, reconcile previous current unsubscribeRemoved =
        (current.flatMap fun node =>
          (Tracked.all.filter fun kind => (node.property kind).listeners = 0).map fun kind =>
            .start (node.property kind).uri) ++
          if unsubscribeRemoved then gone.map .stop else []) ∧
      (∀ uri, uri ∈ gone ↔ Follows previous uri ∧ ¬ Follows current uri) ∧
      gone.Nodup ∧
      (gone.Pairwise fun first second =>
        (addresses previous).idxOf first < (addresses previous).idxOf second) ∧
      (∀ earlier later,
        earlier.map (Node.map Property.uncounted) = previous.map (Node.map Property.uncounted) →
        later.map (Node.map Property.uncounted) = current.map (Node.map Property.uncounted) →
        (reconcile earlier later true).filter (!·.isStart) = gone.map .stop) ∧
      ((∀ uri, Follows previous uri → Follows current uri) →
        ∀ uri, .stop uri ∉ reconcile previous current true) := by
  have order := pairwise_takeNew (addresses current) [] (addresses previous)
  rw [← removed_eq_takeNew] at order
  have members : ∀ uri, uri ∈ removed previous current ↔
      Follows previous uri ∧ ¬ Follows current uri := by
    intro uri
    rw [mem_removed_iff, follows_iff, follows_iff]
  refine ⟨removed previous current, ?_, members, ?_, order, ?_, ?_⟩
  · intro unsubscribeRemoved
    rw [reconcile, starts_eq]
  · apply order.imp
    rintro first second before rfl
    exact lt_irrefl _ before
  · intro earlier later before now
    rw [filter_not_isStart_reconcile, if_pos rfl, removed_eq_takeNew, removed_eq_takeNew,
      addresses_uncounted before, addresses_uncounted now]
  · intro still uri stopped
    obtain ⟨-, gone⟩ := stop_mem_reconcile_iff.mp stopped
    obtain ⟨before, after⟩ := (members uri).mp gone
    exact after (still uri before)

/-- A node that takes its properties from anywhere, all with one count. -/
def borrower (position visibility distance radius : String) (listeners : UInt32) : Node where
  identifier := "Moon"
  tags := []
  position := { uri := position, value := "", listeners }
  visibility := { uri := visibility, value := "", listeners }
  distance := { uri := distance, value := "", listeners }
  radius := { uri := radius, value := "", listeners }

/-- Addresses are followed twice, by one node and by several, and change their kind. -/
theorem borrowers_difference :
    let previous := [borrower "D" "A" "B" "A" 0, borrower "C" "B" "D" "C" 0]
    let current := [borrower "A" "E" "E" "F" 0, borrower "C" "A" "C" "F" 2]
    let earlier := [borrower "D" "A" "B" "A" 7, borrower "C" "B" "D" "C" 8]
    let later := [borrower "A" "E" "E" "F" 1, borrower "C" "A" "C" "F" 0]
    let between := [borrower "F" "F" "C" "A" 0]
    reconcile previous current true =
        [.start "A", .start "E", .start "E", .start "F", .stop "D", .stop "B"] ∧
      earlier.map (Node.map Property.uncounted) = previous.map (Node.map Property.uncounted) ∧
      later.map (Node.map Property.uncounted) = current.map (Node.map Property.uncounted) ∧
      (reconcile earlier later true).filter (!·.isStart) =
        (reconcile previous current true).filter (!·.isStart) ∧
      (∀ uri, Follows between uri → Follows current uri) ∧
      ∀ uri, .stop uri ∉ reconcile between current true := by
  intro previous current earlier later between
  have before : earlier.map (Node.map Property.uncounted) =
      previous.map (Node.map Property.uncounted) := by decide
  have now : later.map (Node.map Property.uncounted) =
      current.map (Node.map Property.uncounted) := by decide
  have still : ∀ uri, Follows between uri → Follows current uri := by
    intro uri
    rw [follows_iff, follows_iff]
    have inside : ∀ uri ∈ addresses between, uri ∈ addresses current := by decide
    exact inside uri
  obtain ⟨gone, -, -, -, -, countless, -⟩ := reconcile_is_exact_difference previous current
  obtain ⟨-, -, -, -, -, -, none⟩ := reconcile_is_exact_difference between current
  refine ⟨by decide, before, now, ?_, still, none still⟩
  rw [countless earlier later before now, countless previous current rfl rfl]

end Command

end StoryMarkers
