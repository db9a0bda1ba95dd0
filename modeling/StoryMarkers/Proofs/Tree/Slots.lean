import Mathlib.Data.Prod.Lex
import StoryMarkers.Proofs.Tree.Paths

/-!
Addresses and the slots they lead to. A slot spells the names of the owners on its path and the
last name of its property. An address leads to the first slot, in the order of the tree, that
spells its segments, so no two addresses share a slot.
-/

set_option autoImplicit false

namespace StoryMarkers

/-- Slots in the order of the tree: by path, and inside an owner by index. -/
instance : LinearOrder Slot :=
  LinearOrder.lift' (fun slot => toLex (slot.path, slot.index)) (by
    rintro ⟨path, index⟩ ⟨path', index'⟩ same
    cases same
    rfl)

theorem Slot.le_iff {slot other : Slot} :
    slot ≤ other ↔
      slot.path < other.path ∨ slot.path = other.path ∧ slot.index ≤ other.index :=
  Prod.Lex.toLex_le_toLex

namespace Tree

theorem get?_eq (tree : Tree) (slot : Slot) :
    tree.get? slot =
      (Owner.below? slot.path tree.root).bind fun owner => owner.properties[slot.index]? := by
  obtain ⟨path, index⟩ := slot
  cases path with
  | nil => rfl
  | cons next path =>
      simp only [get?, Owner.at?_cons, Owner.below?, root]

/-- The names of the owners on the way to a slot, and last that of the property in it. -/
def spelling? (tree : Tree) (slot : Slot) : Option (List String) :=
  (Owner.namesTo? slot.path tree.root).bind fun names =>
    (tree.get? slot).map fun p => names ++ [Uri.name p.uri]

theorem spelling?_eq_some_iff {tree : Tree} {slot : Slot} {uri : String} :
    tree.spelling? slot = some (Uri.segments uri) ↔
      Owner.namesTo? slot.path tree.root = some (Uri.owners uri) ∧
        ∃ p, tree.get? slot = some p ∧ Uri.name p.uri = Uri.name uri := by
  simp only [spelling?, Option.bind_eq_some_iff, Option.map_eq_some_iff]
  constructor
  · rintro ⟨names, spelled, p, present, whole⟩
    obtain ⟨front, last⟩ := Uri.owners_name_of_segments whole.symm
    exact ⟨front ▸ spelled, p, present, last.symm⟩
  · rintro ⟨spelled, p, present, last⟩
    exact ⟨Uri.owners uri, spelled, p, present, by rw [last, Uri.owners_append_name]⟩

/-- The owners that have a property of the given last name. -/
def answers (name : String) (owner : Owner) : Bool := owner.properties.any (·.answersTo name)

theorem slot?_eq (tree : Tree) (uri : String) :
    tree.slot? uri =
      (Owner.search (answers (Uri.name uri)) (Uri.owners uri) tree.root).bind fun path =>
        (Owner.below? path tree.root).bind fun owner =>
          (owner.propertyIndex? (Uri.name uri)).map (Slot.mk path) := by
  unfold slot?
  cases spelled : Uri.owners uri with
  | nil =>
      by_cases accepted : answers (Uri.name uri) tree.root
      · simp only [Owner.search, accepted, ↓reduceIte]
        rfl
      · have absent : tree.properties.findIdx? (·.answersTo (Uri.name uri)) = none := by
          rw [List.findIdx?_eq_none_iff]
          simpa [answers, root] using accepted
        simp [Owner.search, accepted, absent]
  | cons name names =>
      have same : Owner.descend (answers (Uri.name uri)) (name :: names) tree.subowners =
          Owner.search (answers (Uri.name uri)) (name :: names) tree.root := rfl
      change (Owner.descend (answers (Uri.name uri)) (name :: names) tree.subowners).bind _ = _
      rw [same]
      cases found : Owner.search (answers (Uri.name uri)) (name :: names) tree.root with
      | none => rfl
      | some path =>
          obtain ⟨index, child, rest, rfl, -⟩ := Owner.search_cons_eq_some found
          simp only [Option.bind_some, Owner.at?_cons, Owner.below?, root]

/-- The places an address could mean. -/
def spelledBy (tree : Tree) (uri : String) : Set Slot :=
  {slot | tree.spelling? slot = some (Uri.segments uri)}

theorem mem_spelledBy_iff {tree : Tree} {slot : Slot} {uri : String} :
    slot ∈ tree.spelledBy uri ↔
      ∃ owner p, Owner.namesTo? slot.path tree.root = some (Uri.owners uri) ∧
        Owner.below? slot.path tree.root = some owner ∧
        owner.properties[slot.index]? = some p ∧ p.answersTo (Uri.name uri) = true := by
  change tree.spelling? slot = some (Uri.segments uri) ↔ _
  rw [spelling?_eq_some_iff, get?_eq]
  simp only [Option.bind_eq_some_iff, Property.answersTo, decide_eq_true_eq]
  constructor
  · rintro ⟨spelled, p, ⟨owner, reached, present⟩, last⟩
    exact ⟨owner, p, spelled, reached, present, last⟩
  · rintro ⟨owner, p, spelled, reached, present, last⟩
    exact ⟨spelled, p, ⟨owner, reached, present⟩, last⟩

theorem leads_of_mem_spelledBy {tree : Tree} {slot : Slot} {uri : String}
    (spelled : slot ∈ tree.spelledBy uri) :
    Owner.Leads (answers (Uri.name uri)) (Uri.owners uri) tree.root slot.path := by
  obtain ⟨owner, p, names, reached, present, last⟩ := mem_spelledBy_iff.mp spelled
  refine ⟨names, owner, reached, ?_⟩
  rw [answers, List.any_eq_true]
  exact ⟨p, List.mem_of_getElem? present, last⟩

theorem isLeast_of_slot? {tree : Tree} {uri : String} {slot : Slot}
    (found : tree.slot? uri = some slot) : IsLeast (tree.spelledBy uri) slot := by
  rw [slot?_eq] at found
  obtain ⟨path, searched, reached⟩ := Option.bind_eq_some_iff.mp found
  obtain ⟨owner, below, positioned⟩ := Option.bind_eq_some_iff.mp reached
  obtain ⟨index, first, rfl⟩ := Option.map_eq_some_iff.mp positioned
  obtain ⟨inside, fits, before⟩ := List.findIdx?_eq_some_iff_getElem.mp first
  have least := Owner.isLeast_of_search_eq_some searched
  constructor
  · rw [mem_spelledBy_iff]
    exact ⟨owner, owner.properties[index], least.1.1, below, List.getElem?_eq_getElem inside, fits⟩
  · intro other spelled
    rw [Slot.le_iff]
    have behind : path ≤ other.path := least.2 (leads_of_mem_spelledBy spelled)
    rcases lt_or_eq_of_le behind with earlier | same
    · exact Or.inl earlier
    · refine Or.inr ⟨same, ?_⟩
      obtain ⟨owner', p, -, below', present, last⟩ := mem_spelledBy_iff.mp spelled
      rw [← same, below] at below'
      cases below'
      obtain ⟨inside', value⟩ := List.getElem?_eq_some_iff.mp present
      by_contra earlier
      have missed := before other.index (Nat.lt_of_not_le earlier)
      rw [value] at missed
      exact missed last

theorem not_mem_spelledBy_of_slot? {tree : Tree} {uri : String}
    (failed : tree.slot? uri = none) (slot : Slot) : slot ∉ tree.spelledBy uri := by
  intro spelled
  have leads := leads_of_mem_spelledBy spelled
  rw [slot?_eq] at failed
  cases searched : Owner.search (answers (Uri.name uri)) (Uri.owners uri) tree.root with
  | none => exact Owner.not_leads_of_search_eq_none searched slot.path leads
  | some path =>
      obtain ⟨-, owner, below, accepted⟩ := (Owner.isLeast_of_search_eq_some searched).1
      rw [searched, Option.bind_some, below, Option.bind_some, Option.map_eq_none_iff] at failed
      rw [answers, List.any_eq_true] at accepted
      obtain ⟨p, member, last⟩ := accepted
      have missed := List.findIdx?_eq_none_iff.mp failed p member
      rw [last] at missed
      cases missed

/-- An address leads to the first slot that spells it, and nowhere only if no slot does. -/
theorem slot?_isFirst (tree : Tree) (uri : String) :
    IsFirst (tree.spelledBy uri) (tree.slot? uri) := by
  cases found : tree.slot? uri with
  | none => exact not_mem_spelledBy_of_slot? found
  | some slot => exact isLeast_of_slot? found

theorem spelling?_of_slot? {tree : Tree} {uri : String} {slot : Slot}
    (found : tree.slot? uri = some slot) : tree.spelling? slot = some (Uri.segments uri) :=
  (isLeast_of_slot? found).1

/-- Two addresses that lead to one slot are the same address. -/
theorem slot?_injective {tree : Tree} {uri other : String} {slot : Slot}
    (found : tree.slot? uri = some slot) (found' : tree.slot? other = some slot) : uri = other := by
  have spelled := spelling?_of_slot? found
  rw [spelling?_of_slot? found'] at spelled
  exact (Uri.segments_injective (Option.some.inj spelled)).symm

/-- What the trees have in common that spell the same names in the same slots. -/
theorem slot?_congr {tree other : Tree} (same : tree.spelling? = other.spelling?) (uri : String) :
    tree.slot? uri = other.slot? uri := by
  have first := slot?_isFirst tree uri
  rw [spelledBy, same] at first
  cases found : other.slot? uri with
  | none => exact first.eq_none_iff.mpr (not_mem_spelledBy_of_slot? found)
  | some slot => exact (first.eq_some_iff slot).mpr (isLeast_of_slot? found)

/-- A slot that an address leads to holds a property with the last name of the address. -/
theorem get?_of_slot? {tree : Tree} {uri : String} {slot : Slot}
    (found : tree.slot? uri = some slot) :
    ∃ p, tree.get? slot = some p ∧ Uri.name p.uri = Uri.name uri :=
  (spelling?_eq_some_iff.mp (spelling?_of_slot? found)).2

theorem find?_eq_some_iff {tree : Tree} {uri : String} {p : Property} :
    tree.find? uri = some p ↔ ∃ slot, tree.slot? uri = some slot ∧ tree.get? slot = some p :=
  Option.bind_eq_some_iff

theorem find?_eq_none_iff {tree : Tree} {uri : String} :
    tree.find? uri = none ↔ tree.slot? uri = none := by
  rw [find?, Option.bind_eq_none_iff]
  constructor
  · intro absent
    cases found : tree.slot? uri with
    | none => rfl
    | some slot =>
        obtain ⟨p, present, -⟩ := get?_of_slot? found
        rw [absent slot found] at present
        cases present
  · intro failed slot found
    rw [failed] at found
    cases found

/-- There is something to read exactly where an address leads somewhere. -/
theorem isSome_find? (tree : Tree) (uri : String) :
    (tree.find? uri).isSome = (tree.slot? uri).isSome := by
  rw [Bool.eq_iff_iff, Option.isSome_iff_ne_none, Option.isSome_iff_ne_none, ne_eq, ne_eq,
    find?_eq_none_iff]

end Tree

end StoryMarkers
