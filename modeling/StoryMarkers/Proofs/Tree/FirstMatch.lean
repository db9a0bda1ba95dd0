import StoryMarkers.Proofs.Tree.Slots

set_option autoImplicit false

namespace StoryMarkers.Tree

theorem leads_true_iff {names : List String} {owner : Owner} {path : List Nat} :
    Owner.Leads (fun _ => true) names owner path ↔ Owner.namesTo? path owner = some names := by
  constructor
  · exact fun leads => leads.1
  · intro spelled
    have reached : (Owner.below? path owner).isSome = true := by
      rw [← Owner.isSome_namesTo?, spelled]
      rfl
    obtain ⟨last, below⟩ := Option.isSome_iff_exists.mp reached
    exact ⟨spelled, last, below, rfl⟩

theorem ownerPath?_eq_search (tree : Tree) (uri : String) :
    tree.ownerPath? uri = Owner.search (fun _ => true) (Uri.segments uri) tree.root := by
  rw [ownerPath?, Owner.search_eq_descend (Uri.segments_ne_nil uri)]
  rfl

/-- The path to an owner is the first one whose owners have the names in the address. -/
theorem ownerPath?_isFirst (tree : Tree) (uri : String) :
    IsFirst {path | Owner.namesTo? path tree.root = some (Uri.segments uri)}
      (tree.ownerPath? uri) := by
  have first := Owner.search_isFirst (fun _ => true) (Uri.segments uri) tree.root
  simp only [leads_true_iff] at first
  rwa [ownerPath?_eq_search]

theorem owner?_eq (tree : Tree) (uri : String) :
    tree.owner? uri = (tree.ownerPath? uri).bind fun path => Owner.below? path tree.root := by
  rw [owner?]
  cases found : tree.ownerPath? uri with
  | none => rfl
  | some path =>
      have spelled := (ownerPath?_isFirst tree uri).eq_some_iff path |>.mp found |>.1
      cases path with
      | nil => exact absurd (Option.some.inj spelled).symm (Uri.segments_ne_nil uri)
      | cons index path =>
          simp only [Option.bind_some, Owner.at?_cons, Owner.below?, root]

theorem owner?_eq_some_iff (tree : Tree) (uri : String) (owner : Owner) :
    tree.owner? uri = some owner ↔
      ∃ path, IsLeast {path | Owner.namesTo? path tree.root = some (Uri.segments uri)} path ∧
        Owner.below? path tree.root = some owner := by
  rw [owner?_eq, Option.bind_eq_some_iff]
  simp only [(ownerPath?_isFirst tree uri).eq_some_iff]

theorem owner?_eq_none_iff (tree : Tree) (uri : String) :
    tree.owner? uri = none ↔
      ∀ path, Owner.namesTo? path tree.root ≠ some (Uri.segments uri) := by
  have reaches : ∀ path, tree.ownerPath? uri = some path → Owner.below? path tree.root ≠ none := by
    intro path found absent
    have spelled := (ownerPath?_isFirst tree uri).eq_some_iff path |>.mp found |>.1
    have reached := Owner.isSome_namesTo? path tree.root
    rw [absent, show Owner.namesTo? path tree.root = _ from spelled] at reached
    cases reached
  rw [owner?_eq, Option.bind_eq_none_iff]
  constructor
  · intro failed path spelled
    cases found : tree.ownerPath? uri with
    | none => exact (ownerPath?_isFirst tree uri).eq_none_iff.mp found path spelled
    | some first => exact reaches first found (failed first found)
  · intro absent path found
    exact absurd ((ownerPath?_isFirst tree uri).eq_some_iff path |>.mp found |>.1) (absent path)

/-- The slots on a path of owners with the given names that hold a property whose address ends in
the given name. -/
def matching (tree : Tree) (names : List String) (name : String) : Set Slot :=
  {slot | Owner.namesTo? slot.path tree.root = some names ∧
    ∃ p, tree.get? slot = some p ∧ (Uri.segments p.uri).getLast? = some name}

theorem spelledBy_eq_matching (tree : Tree) (uri : String) :
    tree.spelledBy uri = tree.matching (Uri.owners uri) (Uri.name uri) := by
  ext slot
  change tree.spelling? slot = some (Uri.segments uri) ↔ _
  simp only [spelling?_eq_some_iff, matching, Uri.getLast?_segments, Option.some.injEq]
  rfl

theorem find?_eq_some_iff_matching (tree : Tree) (uri : String) (p : Property) :
    tree.find? uri = some p ↔
      ∃ slot, IsLeast (tree.matching (Uri.owners uri) (Uri.name uri)) slot ∧
        tree.get? slot = some p := by
  rw [find?_eq_some_iff, ← spelledBy_eq_matching]
  simp only [(slot?_isFirst tree uri).eq_some_iff]

theorem find?_eq_none_iff_matching (tree : Tree) (uri : String) :
    tree.find? uri = none ↔
      ∀ slot, slot ∉ tree.matching (Uri.owners uri) (Uri.name uri) := by
  rw [find?_eq_none_iff, ← spelledBy_eq_matching]
  exact (slot?_isFirst tree uri).eq_none_iff

/-- The own properties of the tree whose address ends in the given name. -/
def rootMatching (tree : Tree) (name : String) : Set Nat :=
  {index | ∃ p, tree.properties[index]? = some p ∧ (Uri.segments p.uri).getLast? = some name}

theorem mem_matching_nil_iff {tree : Tree} {name : String} {slot : Slot} :
    slot ∈ tree.matching [] name ↔ ∃ index ∈ tree.rootMatching name, slot = ⟨[], index⟩ := by
  obtain ⟨path, index⟩ := slot
  simp only [matching, rootMatching, Set.mem_ofPred_eq, Owner.namesTo?_eq_some_nil_iff]
  constructor
  · rintro ⟨rfl, p, present, last⟩
    exact ⟨index, ⟨p, present, last⟩, rfl⟩
  · rintro ⟨_, ⟨p, present, last⟩, same⟩
    cases same
    exact ⟨rfl, p, present, last⟩

theorem isLeast_matching_nil_iff {tree : Tree} {name : String} {slot : Slot} :
    IsLeast (tree.matching [] name) slot ↔
      ∃ index, IsLeast (tree.rootMatching name) index ∧ slot = ⟨[], index⟩ := by
  constructor
  · rintro ⟨member, least⟩
    obtain ⟨index, fits, rfl⟩ := mem_matching_nil_iff.mp member
    refine ⟨index, ⟨fits, ?_⟩, rfl⟩
    intro other fits'
    have behind := least (mem_matching_nil_iff.mpr ⟨other, fits', rfl⟩)
    rcases Slot.le_iff.mp behind with before | ⟨-, before⟩
    · exact absurd before (lt_irrefl _)
    · exact before
  · rintro ⟨index, ⟨fits, least⟩, rfl⟩
    refine ⟨mem_matching_nil_iff.mpr ⟨index, fits, rfl⟩, ?_⟩
    intro other member
    obtain ⟨index', fits', rfl⟩ := mem_matching_nil_iff.mp member
    exact Slot.le_iff.mpr (Or.inr ⟨rfl, least fits'⟩)

theorem find?_dotFree_eq_some_iff (tree : Tree) {name : String} (free : Uri.DotFree name)
    (p : Property) :
    tree.find? name = some p ↔
      ∃ index, IsLeast (tree.rootMatching name) index ∧ tree.properties[index]? = some p := by
  rw [find?_eq_some_iff_matching, Uri.owners_of_dotFree free, Uri.name_of_dotFree free]
  constructor
  · rintro ⟨slot, least, present⟩
    obtain ⟨index, first, rfl⟩ := isLeast_matching_nil_iff.mp least
    exact ⟨index, first, present⟩
  · rintro ⟨index, first, present⟩
    exact ⟨⟨[], index⟩, isLeast_matching_nil_iff.mpr ⟨index, first, rfl⟩, present⟩

theorem find?_dotFree_eq_none_iff (tree : Tree) {name : String} (free : Uri.DotFree name) :
    tree.find? name = none ↔ ∀ index, index ∉ tree.rootMatching name := by
  rw [find?_eq_none_iff_matching, Uri.owners_of_dotFree free, Uri.name_of_dotFree free]
  constructor
  · intro absent index fits
    exact absent ⟨[], index⟩ (mem_matching_nil_iff.mpr ⟨index, fits, rfl⟩)
  · intro absent slot member
    obtain ⟨index, fits, -⟩ := mem_matching_nil_iff.mp member
    exact absent index fits

/-- Dotted lookup is the first match with full backtracking. An owner is found at the least path
that spells the segments of the address. A property is found in the least slot whose owners spell
what stands before the last dot and whose address ends in what stands behind it; without a dot
only the properties of the tree itself are looked at. In each case nothing is found only where
nothing matches, and every address is of one of the two kinds. -/
theorem lookup_takes_first_match (tree : Tree) :
    (∀ uri,
      (∀ owner, tree.owner? uri = some owner ↔
        ∃ path, IsLeast {path | Owner.namesTo? path tree.root = some (Uri.segments uri)} path ∧
          Owner.below? path tree.root = some owner) ∧
      (tree.owner? uri = none ↔
        ∀ path, Owner.namesTo? path tree.root ≠ some (Uri.segments uri))) ∧
    (∀ front last, Uri.DotFree last →
      (∀ p, tree.find? (Uri.child front last) = some p ↔
        ∃ slot, IsLeast (tree.matching (Uri.segments front) last) slot ∧
          tree.get? slot = some p) ∧
      (tree.find? (Uri.child front last) = none ↔
        ∀ slot, slot ∉ tree.matching (Uri.segments front) last)) ∧
    (∀ name, Uri.DotFree name →
      (∀ p, tree.find? name = some p ↔
        ∃ index, IsLeast (tree.rootMatching name) index ∧ tree.properties[index]? = some p) ∧
      (tree.find? name = none ↔ ∀ index, index ∉ tree.rootMatching name)) ∧
    ∀ uri, Uri.DotFree uri ∨ ∃ front last, Uri.DotFree last ∧ uri = Uri.child front last := by
  refine ⟨?_, ?_, ?_, Uri.dotFree_or_eq_child⟩
  · intro uri
    exact ⟨owner?_eq_some_iff tree uri, owner?_eq_none_iff tree uri⟩
  · intro front last free
    have found := find?_eq_some_iff_matching tree (Uri.child front last)
    have absent := find?_eq_none_iff_matching tree (Uri.child front last)
    simp only [Uri.owners_child free, Uri.name_child free] at found absent
    exact ⟨found, absent⟩
  · intro name free
    exact ⟨find?_dotFree_eq_some_iff tree free, find?_dotFree_eq_none_iff tree free⟩

/-- Two scenes with a moon each, of which only the second moon has a size. -/
def twoMoons : Tree where
  subowners := [
    { identifier := "Scene"
      subowners := [{ identifier := "Moon" }] },
    { identifier := "Scene"
      subowners := [
        { identifier := "Moon"
          properties := [{ uri := "Scene.Moon.Size", value := "2" }] }] }]

theorem lookup_of_second_moon :
    Uri.DotFree "Size" ∧
      ∃ slot, IsLeast (twoMoons.matching (Uri.segments "Scene.Moon") "Size") slot ∧
        twoMoons.get? slot = some { uri := "Scene.Moon.Size", value := "2" } := by
  have free : Uri.DotFree "Size" := by decide
  have lookup := (lookup_takes_first_match twoMoons).2.1 "Scene.Moon" "Size" free
  exact ⟨free, (lookup.1 _).mp (by decide)⟩

end StoryMarkers.Tree
