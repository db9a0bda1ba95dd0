import Mathlib.Data.List.Lex
import Mathlib.Order.Bounds.Basic
import StoryMarkers.Proofs.Tree.Walking
import StoryMarkers.Proofs.Uri

/-!
Paths of owners. A path starts at the tree itself, seen as an owner without a name, and every
index on it leads to a child. The search for an address finds the least path in the order of the
tree that spells the names and ends in an owner that passes the test.
-/

set_option autoImplicit false

namespace StoryMarkers

/-- Whether an answer is the least of all matches, or no answer where nothing matches. -/
def IsFirst {α : Type} [LE α] (found : Set α) : Option α → Prop
  | some a => IsLeast found a
  | none => ∀ a, a ∉ found

theorem IsFirst.eq_some_iff {α : Type} [PartialOrder α] {found : Set α} {answer : Option α}
    (first : IsFirst found answer) (a : α) : answer = some a ↔ IsLeast found a := by
  cases answer with
  | none =>
      constructor
      · intro impossible
        cases impossible
      · intro least
        exact absurd least.1 (first a)
  | some b =>
      rw [Option.some.injEq]
      constructor
      · rintro rfl
        exact first
      · exact fun least => IsLeast.unique first least

theorem IsFirst.eq_none_iff {α : Type} [LE α] {found : Set α} {answer : Option α}
    (first : IsFirst found answer) : answer = none ↔ ∀ a, a ∉ found := by
  cases answer with
  | none => exact iff_of_true rfl first
  | some b =>
      constructor
      · intro impossible
        cases impossible
      · intro absent
        exact absurd first.1 (absent b)

/-- The tree as the owner of its roots and of its own properties. -/
def Tree.root (tree : Tree) : Owner where
  identifier := ""
  subowners := tree.subowners
  properties := tree.properties

namespace Owner

/-- The owner at the end of a path. -/
def below? : List Nat → Owner → Option Owner
  | [], owner => some owner
  | index :: path, owner => owner.subowners[index]?.bind (below? path)

/-- The names that a path spells, of all owners on it but the first. -/
def namesTo? : List Nat → Owner → Option (List String)
  | [], _ => some []
  | index :: path, owner =>
    owner.subowners[index]?.bind fun child => (namesTo? path child).map (child.identifier :: ·)

theorem at?_cons (index : Nat) (path : List Nat) (owners : List Owner) :
    at? (index :: path) owners = owners[index]?.bind (below? path) := by
  induction path generalizing index owners with
  | nil =>
      rw [at?]
      cases owners[index]? <;> rfl
  | cons next path ih =>
      rw [at?]
      · congr 1
        funext child
        exact ih next child.subowners
      · exact List.cons_ne_nil next path

theorem below?_cons_eq_some_iff {index : Nat} {path : List Nat} {owner last : Owner} :
    below? (index :: path) owner = some last ↔
      ∃ child, owner.subowners[index]? = some child ∧ below? path child = some last :=
  Option.bind_eq_some_iff

theorem namesTo?_cons_eq_some_iff {index : Nat} {path : List Nat} {owner : Owner}
    {names : List String} :
    namesTo? (index :: path) owner = some names ↔
      ∃ child rest, owner.subowners[index]? = some child ∧ namesTo? path child = some rest ∧
        names = child.identifier :: rest := by
  simp only [namesTo?, Option.bind_eq_some_iff, Option.map_eq_some_iff]
  constructor
  · rintro ⟨child, found, rest, spelled, rfl⟩
    exact ⟨child, rest, found, spelled, rfl⟩
  · rintro ⟨child, rest, found, spelled, rfl⟩
    exact ⟨child, found, rest, spelled, rfl⟩

theorem namesTo?_eq_some_nil_iff {path : List Nat} {owner : Owner} :
    namesTo? path owner = some [] ↔ path = [] := by
  cases path with
  | nil => simp [namesTo?]
  | cons index path => simp [namesTo?_cons_eq_some_iff]

/-- A path spells names exactly if it leads to an owner. -/
theorem isSome_namesTo? (path : List Nat) (owner : Owner) :
    (namesTo? path owner).isSome = (below? path owner).isSome := by
  induction path generalizing owner with
  | nil => rfl
  | cons index path ih =>
      rw [namesTo?, below?]
      cases owner.subowners[index]? with
      | none => rfl
      | some child => simpa using ih child

/-- A path that spells the names and ends in an owner that passes the test. -/
def Leads (accept : Owner → Bool) (names : List String) (owner : Owner) (path : List Nat) : Prop :=
  namesTo? path owner = some names ∧ ∃ last, below? path owner = some last ∧ accept last = true

theorem leads_nil_iff {accept : Owner → Bool} {owner : Owner} {path : List Nat} :
    Leads accept [] owner path ↔ path = [] ∧ accept owner = true := by
  rw [Leads, namesTo?_eq_some_nil_iff]
  constructor
  · rintro ⟨rfl, last, reached, accepted⟩
    cases reached
    exact ⟨rfl, accepted⟩
  · rintro ⟨rfl, accepted⟩
    exact ⟨rfl, owner, rfl, accepted⟩

theorem leads_cons_iff {accept : Owner → Bool} {name : String} {names : List String}
    {owner : Owner} {path : List Nat} :
    Leads accept (name :: names) owner path ↔
      ∃ index child rest, path = index :: rest ∧ owner.subowners[index]? = some child ∧
        child.identifier = name ∧ Leads accept names child rest := by
  cases path with
  | nil => simp [Leads, namesTo?]
  | cons index path =>
      simp only [Leads, namesTo?_cons_eq_some_iff, below?_cons_eq_some_iff]
      constructor
      · rintro ⟨⟨child, rest, found, spelled, same⟩, last, ⟨child', found', reached⟩, accepted⟩
        rw [found] at found'
        cases found'
        cases same
        exact ⟨index, child, path, rfl, found, rfl, spelled, last, reached, accepted⟩
      · rintro ⟨_, child, _, same, found, rfl, spelled, last, reached, accepted⟩
        cases same
        exact ⟨⟨child, names, found, spelled, rfl⟩, last, ⟨child, found, reached⟩, accepted⟩

/-- A branch that fails further down hides no later one. -/
theorem not_leads_of_search_eq_none {accept : Owner → Bool} {names : List String} {owner : Owner}
    (failed : search accept names owner = none) (path : List Nat) :
    ¬ Leads accept names owner path := by
  induction names generalizing owner path with
  | nil =>
      rw [leads_nil_iff]
      rintro ⟨-, accepted⟩
      simp [search, accepted] at failed
  | cons name names ih =>
      rw [leads_cons_iff]
      rintro ⟨index, child, rest, -, found, fits, leads⟩
      rw [search_cons, List.findSome?_eq_none_iff] at failed
      have here := failed (child, index) (List.mk_mem_zipIdx_iff_getElem?.mpr found)
      simp only [fits, ↓reduceIte, Option.map_eq_none_iff] at here
      exact ih here rest leads

private theorem first_of_findSome? {α β : Type} {f : α × Nat → Option β} {xs : List α} {b : β}
    (found : xs.zipIdx.findSome? f = some b) :
    ∃ index x, xs[index]? = some x ∧ f (x, index) = some b ∧
      ∀ j y, j < index → xs[j]? = some y → f (y, j) = none := by
  obtain ⟨before, hit, after, cut, here, missed⟩ := List.findSome?_eq_some_iff.mp found
  obtain ⟨front, back, rfl, rfl, rest⟩ := List.zipIdx_eq_append_iff.mp cut
  obtain ⟨x, back, rfl, rfl, -⟩ := List.zipIdx_eq_cons_iff.mp rest.symm
  refine ⟨front.length, x, by simp, by simpa using here, ?_⟩
  intro j y earlier reached
  apply missed
  rw [List.getElem?_append_left earlier] at reached
  exact List.mk_mem_zipIdx_iff_getElem?.mpr reached

theorem search_cons_eq_some {accept : Owner → Bool} {name : String} {names : List String}
    {owner : Owner} {path : List Nat} (found : search accept (name :: names) owner = some path) :
    ∃ index child rest, path = index :: rest ∧ owner.subowners[index]? = some child ∧
      child.identifier = name ∧ search accept names child = some rest ∧
      ∀ j sibling, j < index → owner.subowners[j]? = some sibling → sibling.identifier = name →
        search accept names sibling = none := by
  rw [search_cons] at found
  obtain ⟨index, child, reached, here, missed⟩ := first_of_findSome? found
  by_cases fits : child.identifier = name
  · simp only [fits, ↓reduceIte, Option.map_eq_some_iff] at here
    obtain ⟨rest, deeper, rfl⟩ := here
    refine ⟨index, child, rest, rfl, reached, fits, deeper, ?_⟩
    intro j sibling earlier found' same
    have absent := missed j sibling earlier found'
    simpa only [same, ↓reduceIte, Option.map_eq_none_iff] using absent
  · simp [fits] at here

/-- What the search finds is a match, and every other match stands behind it in the tree. -/
theorem isLeast_of_search_eq_some {accept : Owner → Bool} {names : List String} {owner : Owner}
    {path : List Nat} (found : search accept names owner = some path) :
    IsLeast {other | Leads accept names owner other} path := by
  induction names generalizing owner path with
  | nil =>
      rw [search] at found
      split at found
      · rename_i accepted
        cases found
        refine ⟨leads_nil_iff.mpr ⟨rfl, accepted⟩, ?_⟩
        intro other leads
        rw [(leads_nil_iff.mp leads).1]
      · cases found
  | cons name names ih =>
      obtain ⟨index, child, rest, rfl, reached, fits, deeper, missed⟩ := search_cons_eq_some found
      obtain ⟨leads, least⟩ := ih deeper
      refine ⟨leads_cons_iff.mpr ⟨index, child, rest, rfl, reached, fits, leads⟩, ?_⟩
      intro other otherLeads
      obtain ⟨j, sibling, tail, rfl, reached', same, tailLeads⟩ := leads_cons_iff.mp otherLeads
      rcases Nat.lt_trichotomy j index with before | rfl | after
      · have failed := missed j sibling before reached' same
        exact absurd tailLeads (not_leads_of_search_eq_none failed tail)
      · rw [reached] at reached'
        cases reached'
        exact List.cons_le_cons j (least tailLeads)
      · exact le_of_lt (List.Lex.rel after)

/-- The search returns the least match, and nothing only where there is no match. -/
theorem search_isFirst (accept : Owner → Bool) (names : List String) (owner : Owner) :
    IsFirst {path | Leads accept names owner path} (search accept names owner) := by
  cases found : search accept names owner with
  | none => exact not_leads_of_search_eq_none found
  | some path => exact isLeast_of_search_eq_some found

end Owner

end StoryMarkers
