import StoryMarkers.Proofs.Snapshot.Owners
import StoryMarkers.Proofs.Subscription.Requests

set_option autoImplicit false

namespace StoryMarkers

open Json

namespace Fetched

/-- An answer that is read back from its JSON. Null stands for no data, so it is not data. -/
def Storable (depth : Nat) (x : Fetched) : Prop :=
  ∀ v, x.data = some v → v.Readable depth ∧ v ≠ .null

theorem storable_of_decode {depth : Nat} {doc : Document} {x : Fetched} (exact : doc.Exact)
    (decoded : decode (depth + 1) doc = .ok x) : x.Storable depth := by
  have keeps : record.Keeps depth fun _ x => x.Storable depth := by
    intro field inside seen x y doc exact storable read
    simp only [record, List.mem_cons, List.not_mem_nil, or_false] at inside
    rcases inside with rfl | rfl | rfl
    · obtain ⟨id, -, made⟩ := bind_eq_ok read
      cases made
      exact storable
    · obtain ⟨succeeded, -, made⟩ := bind_eq_ok read
      cases made
      exact storable
    · obtain ⟨data, decoded, made⟩ := bind_eq_ok read
      cases made
      rintro v rfl
      by_cases absent : doc = .null
      · subst absent
        cases decoded
      · rw [decodeOption_of_ne_null absent] at decoded
        obtain ⟨w, decoded, made⟩ := map_eq_ok decoded
        cases made
        refine ⟨readable_of_decodeValue exact decoded, ?_⟩
        rintro rfl
        exact absent (decodeValue_eq_null decoded)
  obtain ⟨names, storable, -⟩ := Record.holds_of_decode nofun keeps exact decoded
  exact storable

theorem Storable.legible {depth : Nat} {x : Fetched} (storable : x.Storable depth) :
    x.toJson.Legible := by
  have data : (x.data.getD .null).Legible := by
    cases here : x.data with
    | none => exact .null
    | some v => exact (storable v here).1.legible
  rw [toJson]
  simpa using data

theorem Storable.decode_data {depth : Nat} {x : Fetched} (storable : x.Storable depth) :
    decodeOption decodeValue depth (x.data.getD .null).document = .ok x.data := by
  cases here : x.data with
  | none => rfl
  | some v =>
      obtain ⟨readable, there⟩ := storable v here
      have back := readable.decodeValue_document
      have present : v.document ≠ .null := by
        intro absent
        rw [absent, decodeValue_null, Except.ok.injEq] at back
        exact there back.symm
      rw [Option.getD_some, decodeOption_of_ne_null present, back]
      rfl

theorem Storable.decode_toJson {depth : Nat} {x : Fetched} (storable : x.Storable depth) :
    decode (depth + 1) x.toJson.document = .ok x := by
  have data := storable.decode_data
  have read : record.readEntries depth
      (Value.entriesDocument [
        ("id", .string x.id),
        ("succeed", .bool x.succeeded),
        ("data", x.data.getD .null)]) record.start [] = .ok (x, ["data", "succeed", "id"]) := by
    refine Record.readEntries_more (y := { id := x.id }) rfl (by simp) rfl ?_
    refine Record.readEntries_more (y := { x with data := none }) rfl (by simp) rfl ?_
    refine Record.readEntries_more (y := x) rfl (by simp) ?_ rfl
    simp [data, bind, Except.bind]
  exact Record.decode_object read (by simp [record])

end Fetched

namespace Snapshot

/--
A snapshot that is read back from its JSON. The tree lies one level inside it, with room for 63
levels of owners, and an answer two levels inside it, in a list.
-/
structure Storable (snapshot : Snapshot) : Prop where
  tree : snapshot.tree.root.Storable 63
  fetched : ∀ x ∈ snapshot.fetched, x.Storable 124

theorem storable_of_decode {doc : Document} {snapshot : Snapshot} (exact : doc.Exact)
    (decoded : record.decode maxDepth doc = .ok snapshot) : snapshot.Storable := by
  have keeps : record.Keeps 126 fun _ snapshot => snapshot.Storable := by
    rintro field inside seen x y doc exact ⟨tree, fetched⟩ read
    simp only [record, List.mem_cons, List.not_mem_nil, or_false] at inside
    rcases inside with rfl | rfl
    · obtain ⟨tree', decoded, made⟩ := bind_eq_ok read
      cases made
      refine ⟨?_, fetched⟩
      exact Tree.storable_of_decode (by decide) exact decoded
    · obtain ⟨fetched', decoded, made⟩ := bind_eq_ok read
      cases made
      refine ⟨tree, forall_of_decodeList ?_ exact decoded⟩
      exact fun doc x => Fetched.storable_of_decode
  have start : record.start.Storable := ⟨.intro 62 _ nofun nofun, nofun⟩
  obtain ⟨names, storable, -⟩ := Record.holds_of_decode start keeps exact decoded
  exact storable

theorem Storable.legible {snapshot : Snapshot} (storable : snapshot.Storable) :
    snapshot.toJson.Legible := by
  have tree := Tree.legible_toJson storable.tree
  have fetched : ∀ x ∈ snapshot.fetched, x.toJson.Legible := fun x inside =>
    (storable.fetched x inside).legible
  rw [toJson]
  simpa using ⟨tree, fetched⟩

theorem Storable.decode_toJson {snapshot : Snapshot} (storable : snapshot.Storable) :
    record.decode maxDepth snapshot.toJson.document = .ok snapshot := by
  have tree : Tree.decode 126 snapshot.tree.toJson.document = .ok snapshot.tree :=
    Tree.decode_toJson storable.tree
  have fetched : decodeList Fetched.decode 126
      (Value.array (snapshot.fetched.map Fetched.toJson)).document = .ok snapshot.fetched :=
    decodeList_document fun x inside => (storable.fetched x inside).decode_toJson
  have read : record.readEntries 126
      (Value.entriesDocument [
        ("propertyTree", snapshot.tree.toJson),
        ("fetchData", .array (snapshot.fetched.map Fetched.toJson))]) {} [] =
          .ok (snapshot, ["fetchData", "propertyTree"]) := by
    refine Record.readEntries_more (y := ⟨snapshot.tree, []⟩) rfl (by simp) ?_ ?_
    · simp [tree, bind, Except.bind]
    refine Record.readEntries_more (y := snapshot) rfl (by simp) ?_ rfl
    simp [fetched, bind, Except.bind]
  exact Record.decode_object read (by simp [record])

theorem Storable.reload {snapshot : Snapshot} (storable : snapshot.Storable) :
    ofText snapshot.toJson.compact = .ok snapshot := by
  rw [ofText, storable.legible.decode_compact, storable.decode_toJson]
  rfl

/-- What can be read from a text can be stored. -/
theorem storable_of_ofText {text : String} {snapshot : Snapshot}
    (accepted : ofText text = .ok snapshot) (exact : (readValue text.toList).1.Exact) :
    snapshot.Storable := by
  rw [ofText] at accepted
  cases decoded : Json.decode record.decode text with
  | error fault =>
      rw [decoded] at accepted
      cases accepted
  | ok read =>
      rw [decoded] at accepted
      cases accepted
      exact storable_of_decode exact (decode_eq_ok.mp decoded).1

end Snapshot

theorem Property.Storable.change {depth : Nat} {p : Property} (storable : p.Storable depth)
    (request : Request) : (request.change p).Storable depth := by
  cases request with
  | listen command =>
      cases command with
      | start uri => exact storable.start
      | stop uri => exact storable.stop
  | stream uri value => exact storable.setValue value

theorem Service.fetched_serve (service : Service) (request : Request) :
    (service.serve request).1.snapshot.fetched = service.snapshot.fetched :=
  fetched_serveAll service [request]

theorem Service.storable_serve {service : Service} (storable : service.snapshot.Storable)
    (request : Request) : (service.serve request).1.snapshot.Storable := by
  refine ⟨?_, ?_⟩
  · rw [tree_serve]
    exact Tree.storable_update storable.tree request.uri fun depth p kept => kept.change request
  · rw [fetched_serve]
    exact storable.fetched

theorem Service.storable_serveAll {service : Service} (storable : service.snapshot.Storable)
    (requests : List Request) : (service.serveAll requests).snapshot.Storable := by
  induction requests generalizing service with
  | nil => exact storable
  | cons request requests ih => exact ih (storable_serve storable request)

namespace Snapshot

/-- Snapshots survive being saved and loaded again. Whatever text the state of a service was read
from, and whatever the service was asked since, its state is written as a text that is accepted and
read as this very state. Nothing is assumed but that every fraction in the text that was read first
is read back from the way it is printed. -/
theorem reload_after_requests {text : String} {service : Service}
    (accepted : ofText text = .ok service.snapshot) (exact : (readValue text.toList).1.Exact)
    (requests : List Request) :
    let reached := (service.serveAll requests).snapshot
    ofText reached.toJson.compact = .ok reached := by
  intro reached
  have loaded : service.snapshot.Storable := storable_of_ofText accepted exact
  have served : reached.Storable := Service.storable_serveAll loaded requests
  exact served.reload

/-- A record as an array, tags by their other name, values of several kinds, and no data. -/
def patchwork : Value :=
  .object [
    ("propertyTree", .array [.array [.object [
      ("identifier", .string "Scene"),
      ("tags", .array [.string "story"]),
      ("subowners", .array [.array [.string "Earth", .array [], .array [], .array [
        .object [
          ("Description", .object [
            ("Identifier", .string "Scene.Earth.Scale"), ("Name", .string "Scale")]),
          ("Value", .number (.float 1.5))],
        .object [("Description", .array [.string "Scene.Earth.Rings"]), ("Value", .null)],
        .object [
          ("Description", .object [("Identifier", .string "Scene.Earth.Moons")]),
          ("Value", .array [.bool true, .object [("b", .null), ("a", .string "x")]]),
          ("listeners", .number (.int 2))]]]])]]]),
    ("fetchData", .array [.object [("id", .string "info"), ("data", .null)]])]

theorem legible_patchwork : patchwork.Legible := by
  simp [patchwork, Value.readsBack_threeHalves, Value.readsBack_int, UInt64.size]

theorem reload_of_patchwork :
    ∃ service : Service, ofText patchwork.compact = .ok service.snapshot ∧
      let reached := (service.serveAll [
        .listen (.start "Scene.Earth.Scale"), .stream "Scene.Earth.Moons" "none",
        .listen (.stop "Scene.Earth.Moons")]).snapshot
      ofText reached.toJson.compact = .ok reached := by
  have accepted : (ofText patchwork.compact).isOk = true := by
    rw [ofText, legible_patchwork.decode_compact]
    decide +kernel
  cases read : ofText patchwork.compact with
  | error e =>
      rw [read] at accepted
      cases accepted
  | ok snapshot =>
      have exact : (readValue patchwork.compact.toList).1.Exact := by
        rw [legible_patchwork.readValue_compact.1]
        exact legible_patchwork.exact
      exact ⟨{ snapshot }, rfl, reload_after_requests read exact _⟩

end Snapshot

end StoryMarkers
