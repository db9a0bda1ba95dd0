import StoryMarkers.Proofs.Tree.Listing

set_option autoImplicit false

namespace StoryMarkers

namespace Owner

mutual

/-- Whether below an owner, which the given names lead to, no name of an owner has a dot, and every
address is made of the names on the way and one more. -/
def Spelled (names : List String) : Owner → Prop
  | ⟨_, _, subowners, properties⟩ =>
    (∀ p ∈ properties, p.uri = Uri.join (names ++ [Uri.name p.uri])) ∧ SpelledAll names subowners

def SpelledAll (names : List String) : List Owner → Prop
  | [] => True
  | owner :: rest =>
    (Uri.DotFree owner.identifier ∧ Spelled (names ++ [owner.identifier]) owner) ∧
      SpelledAll names rest

end

mutual

instance decidableSpelled (names : List String) : (owner : Owner) → Decidable (owner.Spelled names)
  | ⟨_, _, subowners, properties⟩ =>
    have := decidableSpelledAll names subowners
    inferInstanceAs (Decidable ((∀ p ∈ properties, p.uri = Uri.join (names ++ [Uri.name p.uri])) ∧
      SpelledAll names subowners))

instance decidableSpelledAll (names : List String) :
    (owners : List Owner) → Decidable (SpelledAll names owners)
  | [] => inferInstanceAs (Decidable True)
  | owner :: rest =>
    have := decidableSpelled (names ++ [owner.identifier]) owner
    have := decidableSpelledAll names rest
    inferInstanceAs (Decidable ((Uri.DotFree owner.identifier ∧
      Spelled (names ++ [owner.identifier]) owner) ∧ SpelledAll names rest))

end

theorem spelledAll_iff {names : List String} {owners : List Owner} :
    SpelledAll names owners ↔
      ∀ owner ∈ owners, Uri.DotFree owner.identifier ∧
        owner.Spelled (names ++ [owner.identifier]) := by
  induction owners with
  | nil => simp [SpelledAll]
  | cons owner rest ih => rw [SpelledAll, ih, List.forall_mem_cons]

theorem spelled_iff {names : List String} {owner : Owner} :
    owner.Spelled names ↔
      (∀ p ∈ owner.properties, p.uri = Uri.join (names ++ [Uri.name p.uri])) ∧
        ∀ child ∈ owner.subowners, Uri.DotFree child.identifier ∧
          child.Spelled (names ++ [child.identifier]) := by
  cases owner
  rw [Spelled, spelledAll_iff]

theorem spelled_map {f : Property → Property} (keeps : ∀ p, (f p).uri = p.uri)
    {names : List String} {owner : Owner} : (owner.map f).Spelled names ↔ owner.Spelled names := by
  induction owner using inductOn generalizing names with
  | step owner ih =>
      rw [spelled_iff, spelled_iff, map_properties, map_subowners, List.forall_mem_map,
        List.forall_mem_map]
      simp only [keeps, map_identifier]
      refine and_congr_right fun _ => forall₂_congr fun child member => ?_
      rw [ih child member]

/-- The names on the way to a property are those that its address is split into. -/
theorem Spelled.segments_eq {names rest : List String} {owner last : Owner} {path : List Nat}
    {p : Property} (spelled : owner.Spelled names) (free : ∀ name ∈ names, Uri.DotFree name)
    (named : namesTo? path owner = some rest) (reached : below? path owner = some last)
    (present : p ∈ last.properties) : Uri.segments p.uri = names ++ rest ++ [Uri.name p.uri] := by
  induction path generalizing owner names rest with
  | nil =>
      cases named
      cases reached
      have whole := (spelled_iff.mp spelled).1 p present
      rw [List.append_nil]
      have parts : ∀ name ∈ names ++ [Uri.name p.uri], Uri.DotFree name :=
        List.forall_mem_append.mpr
          ⟨free, List.forall_mem_singleton.mpr (Uri.dotFree_name p.uri)⟩
      calc Uri.segments p.uri = Uri.segments (Uri.join (names ++ [Uri.name p.uri])) :=
            congrArg Uri.segments whole
        _ = names ++ [Uri.name p.uri] := Uri.segments_join (by simp) parts
  | cons index path ih =>
      obtain ⟨child, others, found, deeper, rfl⟩ := namesTo?_cons_eq_some_iff.mp named
      obtain ⟨child', found', below⟩ := below?_cons_eq_some_iff.mp reached
      rw [found] at found'
      cases found'
      obtain ⟨clean, inside⟩ := (spelled_iff.mp spelled).2 child (List.mem_of_getElem? found)
      have longer : ∀ name ∈ names ++ [child.identifier], Uri.DotFree name :=
        List.forall_mem_append.mpr ⟨free, List.forall_mem_singleton.mpr clean⟩
      simpa using ih inside longer deeper below

end Owner

namespace Tree

/-- A tree in which every address says where its property stands, and stands once. -/
structure WellAddressed (tree : Tree) : Prop where
  spelled : tree.root.Spelled []
  distinct : (tree.allProperties.map (·.uri)).Nodup

instance (tree : Tree) : Decidable tree.WellAddressed :=
  decidable_of_iff (tree.root.Spelled [] ∧ (tree.allProperties.map (·.uri)).Nodup)
    ⟨fun ⟨spelled, distinct⟩ => ⟨spelled, distinct⟩, fun well => ⟨well.spelled, well.distinct⟩⟩

variable {tree : Tree}

theorem wellAddressed_map {f : Property → Property} (keeps : ∀ p, (f p).uri = p.uri) :
    (tree.map f).WellAddressed ↔ tree.WellAddressed := by
  have same : (tree.map f).allProperties.map (·.uri) = tree.allProperties.map (·.uri) := by
    rw [allProperties_map, List.map_map]
    exact List.map_congr_left fun p _ => keeps p
  constructor
  · rintro ⟨spelled, distinct⟩
    rw [root_map, Owner.spelled_map keeps] at spelled
    exact ⟨spelled, same ▸ distinct⟩
  · rintro ⟨spelled, distinct⟩
    refine ⟨?_, same ▸ distinct⟩
    rw [root_map, Owner.spelled_map keeps]
    exact spelled

/-- Where properties stand, and whether their addresses say so, does not depend on anything else of
the properties. -/
theorem wellAddressed_congr {f : Property → Property} (keeps : ∀ p, (f p).uri = p.uri)
    {other : Tree} (same : tree.map f = other.map f) :
    tree.WellAddressed ↔ other.WellAddressed := by
  rw [← wellAddressed_map keeps, same, wellAddressed_map keeps]

theorem WellAddressed.spelling? (well : tree.WellAddressed) {slot : Slot} {p : Property}
    (present : tree.get? slot = some p) : tree.spelling? slot = some (Uri.segments p.uri) := by
  rw [get?_eq, Option.bind_eq_some_iff] at present
  obtain ⟨last, reached, found⟩ := present
  have named : (Owner.namesTo? slot.path tree.root).isSome := by
    rw [Owner.isSome_namesTo?, reached]
    rfl
  obtain ⟨names, spelled⟩ := Option.isSome_iff_exists.mp named
  have whole := well.spelled.segments_eq (by simp) spelled reached (List.mem_of_getElem? found)
  rw [Tree.spelling?, spelled, Option.bind_some, get?_eq, reached, Option.bind_some, found,
    Option.map_some, whole, List.nil_append]

/-- What an address leads to has that address. -/
theorem WellAddressed.uri_of_find? (well : tree.WellAddressed) {uri : String} {p : Property}
    (found : tree.find? uri = some p) : p.uri = uri := by
  obtain ⟨slot, reached, present⟩ := find?_eq_some_iff.mp found
  have spelled := well.spelling? present
  rw [spelling?_of_slot? reached] at spelled
  exact (Uri.segments_injective (Option.some.inj spelled)).symm

/-- The address of a property leads to the slot that the property stands in. -/
theorem WellAddressed.slot?_of_get? (well : tree.WellAddressed) {slot : Slot} {p : Property}
    (present : tree.get? slot = some p) : tree.slot? p.uri = some slot := by
  cases found : tree.slot? p.uri with
  | none => exact absurd (well.spelling? present) (not_mem_spelledBy_of_slot? found slot)
  | some other =>
      -- The first slot that spells the address holds a property of that address, and only one does.
      obtain ⟨q, reached, -⟩ := get?_of_slot? found
      have lookup := find?_eq_some_iff.mpr ⟨other, found, reached⟩
      rw [slot_unique well.distinct reached present (well.uri_of_find? lookup)]

/-- Every property is found under its own address. -/
theorem WellAddressed.find?_of_mem (well : tree.WellAddressed) {p : Property}
    (member : p ∈ tree.allProperties) : tree.find? p.uri = some p := by
  obtain ⟨slot, present⟩ := mem_allProperties_iff.mp member
  exact find?_eq_some_iff.mpr ⟨slot, well.slot?_of_get? present, present⟩

end Tree

end StoryMarkers
