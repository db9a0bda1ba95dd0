import StoryMarkers.Proofs.Tree.Listing
import StoryMarkers.Proofs.Tree.Writing
import StoryMarkers.Subscription.Service

set_option autoImplicit false

namespace StoryMarkers

/-- What the service can be asked: to start or stop listening, or to take a streamed value. -/
inductive Request where
  | listen (command : Command)
  | stream (uri value : String)
deriving DecidableEq, Repr

namespace Command

/-- What a command does to the property it reaches. -/
def change : Command → Property → Property
  | .start _ => Property.start
  | .stop _ => Property.stop

end Command

namespace Request

def uri : Request → String
  | .listen command => command.uri
  | .stream uri _ => uri

/-- What a request does to the property it reaches. -/
def change : Request → Property → Property
  | .listen command => command.change
  | .stream _ value => (·.setValue value)

def isListen : Request → Bool
  | .listen _ => true
  | .stream _ _ => false

def isStart : Request → Bool
  | .listen (.start _) => true
  | _ => false

/-- The requests for one address. -/
def naming (uri : String) (requests : List Request) : List Request :=
  requests.filter (·.uri = uri)

/-- How a request changes a count that has no upper end. -/
def tally (count : Nat) : Request → Nat
  | .listen (.start _) => count + 1
  | .listen (.stop _) => count - 1
  | .stream _ _ => count

def streamed? : Request → Option String
  | .listen _ => none
  | .stream _ value => some value

/-- The value that was streamed last. -/
def lastStreamed? (requests : List Request) : Option String :=
  (requests.filterMap streamed?).getLast?

theorem lastStreamed?_stream (uri value : String) (requests : List Request) :
    lastStreamed? (.stream uri value :: requests) =
      some ((lastStreamed? requests).getD value) := by
  simp only [lastStreamed?, List.filterMap_cons, streamed?, List.getLast?_cons]

theorem uri_change (request : Request) (p : Property) : (request.change p).uri = p.uri := by
  cases request with
  | listen command => cases command <;> rfl
  | stream uri value => rfl

theorem name_change (request : Request) (p : Property) :
    Uri.name (request.change p).uri = Uri.name p.uri := by
  rw [uri_change]

@[simp] theorem naming_nil (uri : String) : naming uri [] = [] := rfl

theorem naming_cons (uri : String) (request : Request) (requests : List Request) :
    naming uri (request :: requests) =
      if request.uri = uri then request :: naming uri requests else naming uri requests := by
  simp only [naming, List.filter_cons, decide_eq_true_eq]

theorem naming_append (uri : String) (first second : List Request) :
    naming uri (first ++ second) = naming uri first ++ naming uri second :=
  List.filter_append first second

end Request

namespace Property

theorem toNat_start (p : Property) (room : p.listeners.toNat + 1 < UInt32.size) :
    p.start.listeners.toNat = p.listeners.toNat + 1 := by
  simp only [start, UInt32.toNat_add, UInt32.reduceToNat]
  exact Nat.mod_eq_of_lt room

theorem toNat_stop (p : Property) : p.stop.listeners.toNat = p.listeners.toNat - 1 := by
  simp only [stop]
  split
  · rename_i none
    rw [none]
    rfl
  · rename_i some
    have positive : 1 ≤ p.listeners := by
      rw [UInt32.le_iff_toNat_le]
      have : p.listeners.toNat ≠ 0 := fun zero => some (UInt32.toNat_inj.mp zero)
      simp only [UInt32.reduceToNat]
      omega
    exact UInt32.toNat_sub_of_le _ _ positive

theorem toNat_change (request : Request) (p : Property)
    (room : request.tally p.listeners.toNat < UInt32.size) :
    (request.change p).listeners.toNat = request.tally p.listeners.toNat := by
  cases request with
  | stream uri value => rfl
  | listen command =>
      cases command with
      | start uri => exact toNat_start p room
      | stop uri => exact toNat_stop p

/-- What requests make of a property that all of them reach. -/
def afterAll (p : Property) (requests : List Request) : Property :=
  requests.foldl (fun p request => request.change p) p

/-- The count after requests that all reach one property, as long as it has an end nowhere. -/
def countAfter (count : Nat) (requests : List Request) : Nat :=
  requests.foldl (fun count request => request.tally count) count

@[simp] theorem afterAll_nil (p : Property) : p.afterAll [] = p := rfl

@[simp] theorem afterAll_cons (p : Property) (request : Request) (requests : List Request) :
    p.afterAll (request :: requests) = (request.change p).afterAll requests := rfl

theorem afterAll_append (p : Property) (first second : List Request) :
    p.afterAll (first ++ second) = (p.afterAll first).afterAll second :=
  List.foldl_append

theorem uri_afterAll (p : Property) (requests : List Request) :
    (p.afterAll requests).uri = p.uri := by
  induction requests generalizing p with
  | nil => rfl
  | cons request requests ih => rw [afterAll_cons, ih, Request.uri_change]

/-- Whether no start among some requests finds the count of a property at its upper end. -/
def HasRoom (p : Property) (requests : List Request) : Prop :=
  ∀ front, front <+: requests → countAfter p.listeners.toNat front < UInt32.size

theorem countAfter_le (count : Nat) (requests : List Request) :
    countAfter count requests ≤ count + requests.countP Request.isStart := by
  induction requests generalizing count with
  | nil => exact Nat.le_refl count
  | cons request requests ih =>
      have step : request.tally count ≤ count + if request.isStart then 1 else 0 := by
        cases request with
        | stream uri value => exact Nat.le_refl count
        | listen command => cases command <;> simp [Request.tally, Request.isStart]
      have rest := ih (request.tally count)
      rw [List.countP_cons]
      change countAfter (request.tally count) requests ≤ _
      omega

theorem hasRoom_of_starts {p : Property} {requests : List Request}
    (few : p.listeners.toNat + requests.countP Request.isStart < UInt32.size) :
    p.HasRoom requests := by
  intro front ahead
  have bound := countAfter_le p.listeners.toNat front
  have fewer : front.countP Request.isStart ≤ requests.countP Request.isStart :=
    ahead.sublist.countP_le
  omega

theorem hasRoom_of_length {p : Property} {requests : List Request}
    (short : p.listeners.toNat + requests.length < UInt32.size) : p.HasRoom requests := by
  apply hasRoom_of_starts
  have fewer : requests.countP Request.isStart ≤ requests.length := List.countP_le_length
  omega

theorem HasRoom.tail {p : Property} {request : Request} {requests : List Request}
    (room : p.HasRoom (request :: requests)) :
    (request.change p).listeners.toNat = request.tally p.listeners.toNat ∧
      (request.change p).HasRoom requests := by
  have here : request.tally p.listeners.toNat < UInt32.size :=
    room [request] (List.prefix_append [request] requests)
  have same := toNat_change request p here
  refine ⟨same, ?_⟩
  intro front ahead
  rw [same]
  exact room (request :: front) (List.cons_prefix_cons.mpr ⟨rfl, ahead⟩)

theorem toNat_afterAll (p : Property) (requests : List Request) (room : p.HasRoom requests) :
    (p.afterAll requests).listeners.toNat = countAfter p.listeners.toNat requests := by
  induction requests generalizing p with
  | nil => rfl
  | cons request requests ih =>
      obtain ⟨same, rest⟩ := room.tail
      rw [afterAll_cons, ih _ rest, same]
      rfl

theorem value_afterAll (p : Property) (requests : List Request) :
    (p.afterAll requests).value = (Request.lastStreamed? requests).getD p.value ∧
      (p.afterAll requests).quoted = ((Request.lastStreamed? requests).isSome || p.quoted) := by
  induction requests generalizing p with
  | nil => exact ⟨rfl, rfl⟩
  | cons request requests ih =>
      obtain ⟨value, quoted⟩ := ih (request.change p)
      rw [afterAll_cons, value, quoted]
      cases request with
      | listen command => cases command <;> exact ⟨rfl, rfl⟩
      | stream uri text =>
          rw [Request.lastStreamed?_stream]
          cases Request.lastStreamed? requests <;> exact ⟨rfl, rfl⟩

/-- All of a property that requests leave alone. -/
def bare (p : Property) : Property := { uri := p.uri, name := p.name, value := "" }

theorem bare_change (request : Request) (p : Property) :
    (request.change p).bare = p.bare := by
  cases request with
  | listen command => cases command <;> rfl
  | stream uri value => rfl

end Property

namespace Service

/-- Serves a request. A streamed value is answered by whether there was a property to take it. -/
def serve (service : Service) : Request → Service × Option Bool
  | .listen command => (service.run command, none)
  | .stream uri value => (service.setValue uri value, some (service.knows uri))

/-- The service after a run of requests. -/
def serveAll (service : Service) (requests : List Request) : Service :=
  requests.foldl (fun service request => (service.serve request).1) service

@[simp] theorem serveAll_nil (service : Service) : service.serveAll [] = service := rfl

@[simp] theorem serveAll_cons (service : Service) (request : Request) (requests : List Request) :
    service.serveAll (request :: requests) = (service.serve request).1.serveAll requests := rfl

theorem serveAll_append (service : Service) (first second : List Request) :
    service.serveAll (first ++ second) = (service.serveAll first).serveAll second :=
  List.foldl_append

theorem tree_serve (service : Service) (request : Request) :
    (service.serve request).1.snapshot.tree =
      service.snapshot.tree.update request.uri request.change := by
  cases request with
  | listen command => cases command <;> rfl
  | stream uri value => rfl

theorem fetched_serveAll (service : Service) (requests : List Request) :
    (service.serveAll requests).snapshot.fetched = service.snapshot.fetched := by
  induction requests generalizing service with
  | nil => rfl
  | cons request requests ih =>
      rw [serveAll_cons, ih]
      cases request with
      | listen command => cases command <;> rfl
      | stream uri value => rfl

theorem requests_serve (service : Service) (request : Request) :
    (service.serve request).1.requests =
      service.requests + if request.isListen then 1 else 0 := by
  cases request with
  | listen command => cases command <;> rfl
  | stream uri value => rfl

theorem requests_serveAll (service : Service) (requests : List Request) :
    (service.serveAll requests).requests =
      service.requests + requests.countP Request.isListen := by
  induction requests generalizing service with
  | nil => rfl
  | cons request requests ih =>
      rw [serveAll_cons, ih, requests_serve, List.countP_cons]
      omega

/-- A run changes nothing about where an address leads. -/
theorem slot?_serveAll (service : Service) (requests : List Request) (uri : String) :
    (service.serveAll requests).snapshot.tree.slot? uri = service.snapshot.tree.slot? uri := by
  induction requests generalizing service with
  | nil => rfl
  | cons request requests ih =>
      rw [serveAll_cons, ih, tree_serve, Tree.slot?_update request.name_change]

/-- A run reaches the property at an address with the requests for that address, in order. -/
theorem find?_serveAll (service : Service) (requests : List Request) (uri : String) :
    (service.serveAll requests).snapshot.tree.find? uri =
      (service.snapshot.tree.find? uri).map (·.afterAll (Request.naming uri requests)) := by
  induction requests generalizing service with
  | nil => simp
  | cons request requests ih =>
      rw [serveAll_cons, ih, tree_serve, Tree.find?_update request.name_change,
        Request.naming_cons]
      by_cases same : request.uri = uri
      · simp [same, Function.comp_def]
      · simp [same, Ne.symm same]

theorem get?_serveAll_of_slot? {service : Service} {uri : String} {slot : Slot}
    (found : service.snapshot.tree.slot? uri = some slot) (requests : List Request) :
    (service.serveAll requests).snapshot.tree.get? slot =
      (service.snapshot.tree.get? slot).map (·.afterAll (Request.naming uri requests)) := by
  have after := service.find?_serveAll requests uri
  rwa [Tree.find?, slot?_serveAll, Tree.find?, found, Option.bind_some, Option.bind_some] at after

/-- A function that cannot tell what requests change sees no change. -/
theorem map_serveAll {f : Property → Property} (service : Service) (requests : List Request)
    (blind : ∀ request ∈ requests, ∀ p, f (request.change p) = f p) :
    (service.serveAll requests).snapshot.tree.map f = service.snapshot.tree.map f := by
  induction requests generalizing service with
  | nil => rfl
  | cons request requests ih =>
      have here := blind request List.mem_cons_self
      have rest : ∀ later ∈ requests, ∀ p, f (later.change p) = f p :=
        fun later member => blind later (List.mem_cons_of_mem _ member)
      rw [serveAll_cons, ih _ rest, tree_serve, Tree.map_update here]

theorem get?_serveAll_of_untouched (service : Service) (requests : List Request) (slot : Slot)
    (untouched : ∀ request ∈ requests, service.snapshot.tree.slot? request.uri ≠ some slot) :
    (service.serveAll requests).snapshot.tree.get? slot = service.snapshot.tree.get? slot := by
  induction requests generalizing service with
  | nil => rfl
  | cons request requests ih =>
      have here := untouched request List.mem_cons_self
      have rest : ∀ later ∈ requests,
          (service.serve request).1.snapshot.tree.slot? later.uri ≠ some slot := by
        intro later member
        rw [tree_serve, Tree.slot?_update request.name_change]
        exact untouched later (List.mem_cons_of_mem _ member)
      rw [serveAll_cons, ih _ rest, tree_serve, Tree.get?_update, if_neg here]

theorem knows_eq (service : Service) (uri : String) :
    service.knows uri = (service.snapshot.tree.find? uri).isSome :=
  (Tree.isSome_find? service.snapshot.tree uri).symm

theorem isSome_find?_serveAll (service : Service) (requests : List Request) (uri : String) :
    ((service.serveAll requests).snapshot.tree.find? uri).isSome =
      (service.snapshot.tree.find? uri).isSome := by
  rw [find?_serveAll, Option.isSome_map]

/-- Whether no start in a run finds a count at its upper end. -/
def HasRoom (service : Service) (requests : List Request) : Prop :=
  ∀ uri p, service.snapshot.tree.find? uri = some p → p.HasRoom (Request.naming uri requests)

theorem hasRoom_of_length {service : Service} {requests : List Request}
    (short : ∀ p ∈ service.snapshot.tree.allProperties,
      p.listeners.toNat + requests.length < UInt32.size) : service.HasRoom requests := by
  intro uri p found
  apply Property.hasRoom_of_length
  have here := short p (Tree.mem_allProperties_of_find? found)
  have fewer : (Request.naming uri requests).length ≤ requests.length :=
    List.length_filter_le _ requests
  omega

/-- The service is a map from addresses to counts and values. A run changes neither which addresses
lead to a property nor anything of the tree but counts and values. Under each address the count is
the fold of the starts and stops for that address, and the value is the one streamed to it last;
whatever no request leads to stays as it was. -/
theorem run_folds_requests_by_address (service : Service) (requests : List Request)
    (room : service.HasRoom requests) :
    let before := service.snapshot.tree
    let after := service.serveAll requests
    (∀ uri, (after.snapshot.tree.find? uri).isSome = (before.find? uri).isSome) ∧
    (∀ uri p, before.find? uri = some p →
      ∃ q, after.snapshot.tree.find? uri = some q ∧
        after.listeners? uri = some q.listeners ∧
        q.listeners.toNat =
          Property.countAfter p.listeners.toNat (Request.naming uri requests) ∧
        q.value = (Request.lastStreamed? (Request.naming uri requests)).getD p.value ∧
        q.quoted =
          ((Request.lastStreamed? (Request.naming uri requests)).isSome || p.quoted)) ∧
    (∀ uri value, (after.serve (.stream uri value)).2 = some (before.find? uri).isSome) ∧
    after.requests = service.requests + requests.countP Request.isListen ∧
    after.snapshot.tree.map Property.bare = before.map Property.bare ∧
    (∀ slot, (∀ request ∈ requests, before.slot? request.uri ≠ some slot) →
      after.snapshot.tree.get? slot = before.get? slot) ∧
    after.snapshot.fetched = service.snapshot.fetched := by
  intro before after
  refine ⟨isSome_find?_serveAll service requests, ?_, ?_, requests_serveAll service requests,
    map_serveAll service requests fun request _ => Property.bare_change request,
    get?_serveAll_of_untouched service requests, fetched_serveAll service requests⟩
  · intro uri p found
    have reached : after.snapshot.tree.find? uri =
        some (p.afterAll (Request.naming uri requests)) := by
      rw [find?_serveAll, found, Option.map_some]
    obtain ⟨value, quoted⟩ := p.value_afterAll (Request.naming uri requests)
    refine ⟨_, reached, ?_, p.toNat_afterAll _ (room uri p found), value, quoted⟩
    rw [listeners?, reached, Option.map_some]
  · intro uri value
    rw [serve, knows_eq, isSome_find?_serveAll]

/-- A service on two moons of one name, the first of them without a size. -/
def moons : Service where
  snapshot := {
    tree := {
      subowners := [
        { identifier := "Scene"
          subowners := [
            { identifier := "Moon" },
            { identifier := "Moon"
              properties := [{ uri := "Moon.Size", value := "2", quoted := false }] }] }] } }

theorem run_on_moons :
    let requests : List Request := [
      .listen (.start "Scene.Moon.Size"), .listen (.start "Moon.Size"),
      .stream "Scene.Moon.Size" "3", .listen (.start "Scene.Moon.Size"),
      .listen (.stop "Scene.Moon.Size")]
    moons.HasRoom requests ∧
      ∃ q, (moons.serveAll requests).snapshot.tree.find? "Scene.Moon.Size" = some q ∧
        q.listeners.toNat = 1 ∧ q.value = "3" ∧ q.quoted = true := by
  intro requests
  have room : moons.HasRoom requests := hasRoom_of_length (by decide)
  obtain ⟨-, ledger, -⟩ := run_folds_requests_by_address moons requests room
  obtain ⟨q, found, -, count, value, quoted⟩ := ledger "Scene.Moon.Size"
    { uri := "Moon.Size", value := "2", quoted := false } (by decide)
  exact ⟨room, q, found, count, value, quoted⟩

end Service

end StoryMarkers
