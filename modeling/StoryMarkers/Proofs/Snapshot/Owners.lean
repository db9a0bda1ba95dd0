import StoryMarkers.Proofs.Snapshot.Properties
import StoryMarkers.Proofs.Tree.Writing
import StoryMarkers.Tree.Wire

/-!
Owners and trees that can be stored. Every level of owners takes two levels of nesting, so wherever
an owner could be read there is room for the lists that it is written with, also those it came
without.
-/

set_option autoImplicit false

namespace StoryMarkers

open Json

private theorem forall_mem_modify {α : Type} {P : α → Prop} {xs : List α} {change : α → α}
    (holds : ∀ x ∈ xs, P x) (kept : ∀ x, P x → P (change x)) (index : Nat) :
    ∀ x ∈ xs.modify index change, P x := by
  intro x inside
  obtain ⟨position, reached⟩ := List.mem_iff_getElem?.mp inside
  rw [List.getElem?_modify] at reached
  obtain ⟨y, before, rfl⟩ := Option.map_eq_some_iff.mp reached
  have here := holds y (List.mem_of_getElem? before)
  split
  · exact kept y here
  · exact here

namespace Owner

/-- An owner that is read back from its JSON, with so many levels of owners allowed. -/
inductive Storable : Nat → Owner → Prop
  | intro (levels : Nat) (owner : Owner) (owners : ∀ child ∈ owner.subowners, Storable levels child)
      (properties : ∀ p ∈ owner.properties, p.Storable (2 * levels)) : Storable (levels + 1) owner

theorem Storable.modifyBelow {levels : Nat} {owner : Owner} (storable : owner.Storable levels)
    {change : Property → Property}
    (kept : ∀ depth p, p.Storable depth → (change p).Storable depth) (path : List Nat)
    (index : Nat) :
    (Owner.modifyBelow (withProperties (·.modify index change)) path owner).Storable levels := by
  induction path generalizing levels owner with
  | nil =>
      obtain ⟨levels, owner, owners, properties⟩ := storable
      exact .intro levels _ owners (forall_mem_modify properties (kept _) index)
  | cons next path ih =>
      obtain ⟨levels, owner, owners, properties⟩ := storable
      exact .intro levels _ (forall_mem_modify owners (fun child => ih) next) properties

theorem storable_of_decode {levels : Nat} (fits : 2 * levels ≤ maxDepth) {doc : Document}
    {owner : Owner} (exact : doc.Exact) (decoded : decode (2 * levels) doc = .ok owner) :
    owner.Storable levels := by
  induction levels generalizing doc owner with
  | zero => exact absurd decoded (Record.decode_zero doc owner)
  | succ levels ih =>
      have keeps : (record fun _ => decode (2 * levels)).Keeps (2 * levels + 1) fun _ owner =>
          (∀ child ∈ owner.subowners, child.Storable levels) ∧
            ∀ p ∈ owner.properties, p.Storable (2 * levels) := by
        rintro field inside seen x y doc exact ⟨owners, properties⟩ read
        simp only [record, List.mem_cons, List.not_mem_nil, or_false] at inside
        rcases inside with rfl | rfl | rfl | rfl
        · obtain ⟨identifier, -, made⟩ := bind_eq_ok read
          cases made
          exact ⟨owners, properties⟩
        · obtain ⟨tags, -, made⟩ := bind_eq_ok read
          cases made
          exact ⟨owners, properties⟩
        · obtain ⟨children, decoded, made⟩ := bind_eq_ok read
          cases made
          refine ⟨forall_of_decodeList ?_ exact decoded, properties⟩
          exact fun doc child => ih (by omega)
        · obtain ⟨ps, decoded, made⟩ := bind_eq_ok read
          cases made
          refine ⟨owners, forall_of_decodeList ?_ exact decoded⟩
          exact fun doc p => Property.storable_of_decode (by omega)
      have decoded' : (record fun _ => decode (2 * levels)).decode (2 * levels + 2) doc =
        .ok owner := decoded
      obtain ⟨names, ⟨owners, properties⟩, -⟩ :=
        Record.holds_of_decode ⟨nofun, nofun⟩ keeps exact decoded'
      exact .intro levels owner owners properties

theorem listToJson_eq (owners : List Owner) : listToJson owners = owners.map toJson := by
  induction owners with
  | nil => rfl
  | cons owner owners ih => rw [listToJson, ih, List.map_cons]

theorem toJson_eq (owner : Owner) : owner.toJson = .object [
    ("identifier", .string owner.identifier),
    ("tag", .array (owner.tags.map .string)),
    ("subowners", .array (owner.subowners.map toJson)),
    ("properties", .array (owner.properties.map Property.toJson))] := by
  obtain ⟨identifier, tags, subowners, properties⟩ := owner
  rw [toJson, listToJson_eq]

theorem Storable.legible {levels : Nat} {owner : Owner} (storable : owner.Storable levels) :
    owner.toJson.Legible := by
  induction storable with
  | intro levels owner owners properties ih =>
      have inside : ∀ p ∈ owner.properties, p.toJson.Legible := fun p member =>
        (properties p member).legible
      rw [toJson_eq]
      simpa using ⟨ih, inside⟩

theorem Storable.decode_toJson {levels : Nat} {owner : Owner} (storable : owner.Storable levels) :
    decode (2 * levels) owner.toJson.document = .ok owner := by
  induction storable with
  | intro levels owner owners properties ih =>
      obtain ⟨identifier, tags, subowners, own⟩ := owner
      have tags_read : decodeList decodeText (2 * levels + 1)
          (Value.array (tags.map .string)).document = .ok tags :=
        decodeList_document fun tag _ => rfl
      have subowners_read : decodeList (fun _ => decode (2 * levels)) (2 * levels + 1)
          (Value.array (subowners.map toJson)).document = .ok subowners :=
        decodeList_document ih
      have properties_read : decodeList Property.decode (2 * levels + 1)
          (Value.array (own.map Property.toJson)).document = .ok own :=
        decodeList_document fun p inside => (properties p inside).decode_toJson
      have read : (record fun _ => decode (2 * levels)).readEntries (2 * levels + 1)
          (Value.entriesDocument [
            ("identifier", .string identifier),
            ("tag", .array (tags.map .string)),
            ("subowners", .array (subowners.map toJson)),
            ("properties", .array (own.map Property.toJson))])
          { identifier := "" } [] =
            .ok (⟨identifier, tags, subowners, own⟩,
              ["properties", "subowners", "tag", "identifier"]) := by
        refine Record.readEntries_more (y := ⟨identifier, [], [], []⟩)
          rfl (by simp) rfl ?_
        refine Record.readEntries_more (y := ⟨identifier, tags, [], []⟩)
          rfl (by simp) ?_ ?_
        · simp [tags_read, bind, Except.bind]
        refine Record.readEntries_more (y := ⟨identifier, tags, subowners, []⟩)
          rfl (by simp) ?_ ?_
        · simp [subowners_read, bind, Except.bind]
        refine Record.readEntries_more (y := ⟨identifier, tags, subowners, own⟩)
          rfl (by simp) ?_ ?_
        · simp [properties_read, bind, Except.bind]
        rfl
      rw [toJson_eq]
      exact Record.decode_object read (by simp [record])

end Owner

namespace Tree

variable {levels : Nat} {tree : Tree}

/-! A tree is stored as its root, an owner without a name, would be. -/

theorem storable_update (storable : tree.root.Storable levels) (uri : String)
    {change : Property → Property}
    (kept : ∀ depth p, p.Storable depth → (change p).Storable depth) :
    (tree.update uri change).root.Storable levels := by
  rw [update]
  cases tree.slot? uri with
  | none => exact storable
  | some slot =>
      rw [root_modify]
      exact storable.modifyBelow kept slot.path slot.index

theorem storable_of_decode (fits : 2 * levels ≤ maxDepth) {doc : Document} (exact : doc.Exact)
    (decoded : decode (2 * levels) doc = .ok tree) : tree.root.Storable levels := by
  cases levels with
  | zero => exact absurd decoded (Record.decode_zero doc tree)
  | succ levels =>
      have keeps : record.Keeps (2 * levels + 1) fun _ tree =>
          (∀ owner ∈ tree.subowners, owner.Storable levels) ∧
            ∀ p ∈ tree.properties, p.Storable (2 * levels) := by
        rintro field inside seen x y doc exact ⟨owners, properties⟩ read
        simp only [record, List.mem_cons, List.not_mem_nil, or_false] at inside
        rcases inside with rfl | rfl
        · obtain ⟨children, decoded, made⟩ := bind_eq_ok read
          cases made
          refine ⟨forall_of_decodeList ?_ exact decoded, properties⟩
          exact fun doc child => Owner.storable_of_decode (by omega)
        · obtain ⟨own, decoded, made⟩ := bind_eq_ok read
          cases made
          refine ⟨owners, forall_of_decodeList ?_ exact decoded⟩
          exact fun doc p => Property.storable_of_decode (by omega)
      obtain ⟨names, ⟨owners, properties⟩, -⟩ :=
        Record.holds_of_decode ⟨nofun, nofun⟩ keeps exact decoded
      exact .intro levels tree.root owners properties

theorem toJson_eq (tree : Tree) : tree.toJson = .object [
    ("subowners", .array (tree.subowners.map Owner.toJson)),
    ("properties", .array (tree.properties.map Property.toJson))] := by
  rw [toJson, Owner.listToJson_eq]

theorem legible_toJson (storable : tree.root.Storable levels) : tree.toJson.Legible := by
  obtain ⟨levels, -, owners, properties⟩ := storable
  have children : ∀ owner ∈ tree.subowners, owner.toJson.Legible := fun owner inside =>
    (owners owner inside).legible
  have own : ∀ p ∈ tree.properties, p.toJson.Legible := fun p inside =>
    (properties p inside).legible
  rw [toJson_eq]
  simpa using ⟨children, own⟩

theorem decode_toJson (storable : tree.root.Storable levels) :
    decode (2 * levels) tree.toJson.document = .ok tree := by
  obtain ⟨levels, -, owners, properties⟩ := storable
  have subowners_read : decodeList Owner.decode (2 * levels + 1)
      (Value.array (tree.subowners.map Owner.toJson)).document = .ok tree.subowners :=
    decodeList_document fun owner inside => (owners owner inside).decode_toJson
  have properties_read : decodeList Property.decode (2 * levels + 1)
      (Value.array (tree.properties.map Property.toJson)).document = .ok tree.properties :=
    decodeList_document fun p inside => (properties p inside).decode_toJson
  have read : record.readEntries (2 * levels + 1)
      (Value.entriesDocument [
        ("subowners", .array (tree.subowners.map Owner.toJson)),
        ("properties", .array (tree.properties.map Property.toJson))]) {} [] =
          .ok (tree, ["properties", "subowners"]) := by
    refine Record.readEntries_more (y := ⟨tree.subowners, []⟩) rfl (by simp) ?_ ?_
    · simp [subowners_read, bind, Except.bind]
    refine Record.readEntries_more (y := tree) rfl (by simp) ?_ rfl
    simp [properties_read, bind, Except.bind]
  rw [toJson_eq]
  exact Record.decode_object read (by simp [record])

end Tree

end StoryMarkers
