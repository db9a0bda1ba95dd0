import StoryMarkers.Proofs.Tree.Slots

set_option autoImplicit false

namespace StoryMarkers

namespace Owner

/-- An induction over an owner may use what holds of the owners directly inside it. -/
theorem inductOn {motive : Owner → Prop} (owner : Owner)
    (step : ∀ owner : Owner, (∀ child ∈ owner.subowners, motive child) → motive owner) :
    motive owner := by
  refine @Owner.rec motive (fun owners => ∀ child ∈ owners, motive child) ?_ ?_ ?_ owner
  · intro identifier tags subowners properties inside
    exact step ⟨identifier, tags, subowners, properties⟩ inside
  · intro child impossible
    cases impossible
  · intro first rest here inside child member
    rcases List.mem_cons.mp member with rfl | member
    · exact here
    · exact inside child member

mutual

/-- An owner with every property in it and below it replaced by its image. -/
def map (f : Property → Property) : Owner → Owner
  | ⟨identifier, tags, subowners, properties⟩ =>
    ⟨identifier, tags, mapAll f subowners, properties.map f⟩

def mapAll (f : Property → Property) : List Owner → List Owner
  | [] => []
  | owner :: rest => owner.map f :: mapAll f rest

end

variable (f : Property → Property)

theorem mapAll_eq (owners : List Owner) : mapAll f owners = owners.map (map f) := by
  induction owners with
  | nil => rfl
  | cons owner rest ih => rw [mapAll, ih, List.map_cons]

@[simp] theorem map_identifier (owner : Owner) : (owner.map f).identifier = owner.identifier := by
  cases owner
  rfl

@[simp] theorem map_tags (owner : Owner) : (owner.map f).tags = owner.tags := by
  cases owner
  rfl

@[simp] theorem map_properties (owner : Owner) :
    (owner.map f).properties = owner.properties.map f := by
  cases owner
  rfl

@[simp] theorem map_subowners (owner : Owner) :
    (owner.map f).subowners = owner.subowners.map (map f) := by
  cases owner
  exact mapAll_eq f _

@[ext] theorem ext {owner other : Owner} (identifier : owner.identifier = other.identifier)
    (tags : owner.tags = other.tags) (subowners : owner.subowners = other.subowners)
    (properties : owner.properties = other.properties) : owner = other := by
  cases owner
  cases other
  simp_all

theorem below?_map (path : List Nat) (owner : Owner) :
    below? path (owner.map f) = (below? path owner).map (map f) := by
  induction path generalizing owner with
  | nil => rfl
  | cons index path ih =>
      rw [below?, below?, map_subowners, List.getElem?_map]
      cases owner.subowners[index]? with
      | none => rfl
      | some child => exact ih child

theorem namesTo?_map (path : List Nat) (owner : Owner) :
    namesTo? path (owner.map f) = namesTo? path owner := by
  induction path generalizing owner with
  | nil => rfl
  | cons index path ih =>
      rw [namesTo?, namesTo?, map_subowners, List.getElem?_map]
      cases owner.subowners[index]? with
      | none => rfl
      | some child => simp only [Option.map_some, Option.bind_some, ih, map_identifier]

end Owner

namespace Tree

/-- A tree with every property in it replaced by its image. -/
def map (f : Property → Property) (tree : Tree) : Tree where
  subowners := tree.subowners.map (Owner.map f)
  properties := tree.properties.map f

variable (f : Property → Property)

theorem root_map (tree : Tree) : (tree.map f).root = tree.root.map f := by
  ext1
  · simp [root]
  · simp [root]
  · simp [root, map]
  · simp [root, map]

theorem root_injective : Function.Injective root := by
  rintro ⟨subowners, properties⟩ ⟨subowners', properties'⟩ same
  cases same
  rfl

theorem get?_map (tree : Tree) (slot : Slot) : (tree.map f).get? slot = (tree.get? slot).map f := by
  rw [get?_eq, get?_eq, root_map, Owner.below?_map]
  cases Owner.below? slot.path tree.root with
  | none => rfl
  | some owner => simp

variable {f}

theorem spelling?_map (keeps : ∀ p, Uri.name (f p).uri = Uri.name p.uri) (tree : Tree) :
    (tree.map f).spelling? = tree.spelling? := by
  funext slot
  rw [spelling?, spelling?, root_map, Owner.namesTo?_map, get?_map]
  congr 1
  funext names
  simp [Function.comp_def, keeps]

theorem slot?_map (keeps : ∀ p, Uri.name (f p).uri = Uri.name p.uri) (tree : Tree) (uri : String) :
    (tree.map f).slot? uri = tree.slot? uri :=
  slot?_congr (spelling?_map keeps tree) uri

theorem find?_map (keeps : ∀ p, Uri.name (f p).uri = Uri.name p.uri) (tree : Tree) (uri : String) :
    (tree.map f).find? uri = (tree.find? uri).map f := by
  rw [find?, find?, slot?_map keeps]
  cases tree.slot? uri with
  | none => rfl
  | some slot => exact get?_map f tree slot

end Tree

end StoryMarkers
