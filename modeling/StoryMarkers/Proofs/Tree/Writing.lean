import StoryMarkers.Proofs.Tree.Mapping

set_option autoImplicit false

namespace StoryMarkers

private theorem list_map_modify {α β : Type} {view : α → β} {change : α → α} {xs : List α}
    {index : Nat} (blind : ∀ x, xs[index]? = some x → view (change x) = view x) :
    (xs.modify index change).map view = xs.map view := by
  apply List.ext_getElem?
  intro position
  simp only [List.getElem?_map, List.getElem?_modify]
  cases reached : xs[position]? with
  | none => rfl
  | some x =>
      by_cases same : index = position
      · subst same
        simp [blind x reached]
      · simp [same]

namespace Owner

/-- Changes the owner at the end of a path, the owner itself if the path is empty. -/
def modifyBelow (change : Owner → Owner) : List Nat → Owner → Owner
  | [], owner => change owner
  | index :: path, owner =>
    { owner with subowners := owner.subowners.modify index (modifyBelow change path) }

theorem modifyAt_cons (change : Owner → Owner) (index : Nat) (path : List Nat)
    (owners : List Owner) :
    modifyAt change (index :: path) owners = owners.modify index (modifyBelow change path) := by
  induction path generalizing index owners with
  | nil => rfl
  | cons next path ih =>
      rw [modifyAt]
      · congr 1
        funext owner
        rw [ih, modifyBelow]
      · exact List.cons_ne_nil next path

/-- Changes an owner's own properties. -/
def withProperties (change : List Property → List Property) (owner : Owner) : Owner :=
  { owner with properties := change owner.properties }

/-- The own properties of the owner at the end of a path. -/
def propertiesAt? (path : List Nat) (owner : Owner) : Option (List Property) :=
  (below? path owner).map (·.properties)

theorem propertiesAt?_modifyBelow (change : List Property → List Property)
    (path other : List Nat) (owner : Owner) :
    propertiesAt? other (modifyBelow (withProperties change) path owner) =
      if other = path then (propertiesAt? other owner).map change
      else propertiesAt? other owner := by
  induction path generalizing other owner with
  | nil =>
      cases other with
      | nil => rfl
      | cons next other => rfl
  | cons index path ih =>
      cases other with
      | nil => rfl
      | cons next other =>
          simp only [propertiesAt?, modifyBelow, below?, List.getElem?_modify] at ih ⊢
          cases owner.subowners[next]? with
          | none => simp
          | some child =>
              by_cases same : index = next
              · subst same
                simpa using ih other child
              · simp [same, Ne.symm same]

/-- A function that cannot tell the changed owner from the old one sees no change. -/
theorem map_modifyBelow {f : Property → Property} {change : Owner → Owner} {path : List Nat}
    {owner : Owner}
    (blind : ∀ last, below? path owner = some last → (change last).map f = last.map f) :
    (modifyBelow change path owner).map f = owner.map f := by
  induction path generalizing owner with
  | nil => exact blind owner rfl
  | cons index path ih =>
      ext1
      · simp [modifyBelow]
      · simp [modifyBelow]
      · rw [map_subowners, map_subowners, modifyBelow]
        apply list_map_modify
        intro child reached
        apply ih
        intro last below
        exact blind last (below?_cons_eq_some_iff.mpr ⟨child, reached, below⟩)
      · simp [modifyBelow]

end Owner

namespace Tree

theorem root_modify (tree : Tree) (slot : Slot) (change : Property → Property) :
    (tree.modify slot change).root =
      Owner.modifyBelow (Owner.withProperties (·.modify slot.index change)) slot.path
        tree.root := by
  obtain ⟨path, index⟩ := slot
  cases path with
  | nil => rfl
  | cons next path =>
      simp only [modify, Owner.modifyAt_cons, root, Owner.modifyBelow]
      rfl

theorem get?_eq_propertiesAt? (tree : Tree) (slot : Slot) :
    tree.get? slot = (Owner.propertiesAt? slot.path tree.root).bind (·[slot.index]?) := by
  rw [get?_eq, Owner.propertiesAt?]
  cases Owner.below? slot.path tree.root <;> rfl

/-- A write changes what is read in its slot and in no other. -/
theorem get?_modify (tree : Tree) (slot other : Slot) (change : Property → Property) :
    (tree.modify slot change).get? other =
      if other = slot then (tree.get? other).map change else tree.get? other := by
  rw [get?_eq_propertiesAt?, get?_eq_propertiesAt?, root_modify,
    Owner.propertiesAt?_modifyBelow]
  obtain ⟨path, index⟩ := slot
  obtain ⟨path', index'⟩ := other
  by_cases samePath : path' = path
  · subst samePath
    cases Owner.propertiesAt? path' tree.root with
    | none => simp
    | some properties =>
        by_cases sameIndex : index' = index
        · subst sameIndex
          simp
        · simp [sameIndex, Ne.symm sameIndex]
  · simp [samePath]

/-- A function that cannot tell the changed property from the old one sees the same tree. -/
theorem map_modify {f change : Property → Property} {tree : Tree} {slot : Slot}
    (blind : ∀ p, tree.get? slot = some p → f (change p) = f p) :
    (tree.modify slot change).map f = tree.map f := by
  apply root_injective
  rw [root_map, root_map, root_modify]
  apply Owner.map_modifyBelow
  intro last reached
  ext1
  · simp [Owner.withProperties]
  · simp [Owner.withProperties]
  · simp [Owner.withProperties]
  · rw [Owner.map_properties, Owner.map_properties, Owner.withProperties]
    apply list_map_modify
    intro p present
    have here : tree.get? slot = some p := by
      rw [get?_eq, reached, Option.bind_some, present]
    exact blind p here

/-- What a lookup can tell of a property. -/
def label (p : Property) : Property := { uri := Uri.name p.uri, value := "" }

theorem name_label (p : Property) : Uri.name (label p).uri = Uri.name p.uri :=
  Uri.name_of_dotFree (Uri.dotFree_name p.uri)

theorem slot?_modify {change : Property → Property} {tree : Tree} {slot : Slot}
    (keeps : ∀ p, tree.get? slot = some p → Uri.name (change p).uri = Uri.name p.uri)
    (uri : String) : (tree.modify slot change).slot? uri = tree.slot? uri := by
  have blind : (tree.modify slot change).map label = tree.map label := by
    apply map_modify
    intro p here
    rw [label, label, keeps p here]
  rw [← slot?_map name_label (tree.modify slot change), blind, slot?_map name_label]

variable {change : Property → Property}

theorem map_update {f : Property → Property} (blind : ∀ p, f (change p) = f p) (tree : Tree)
    (uri : String) : (tree.update uri change).map f = tree.map f := by
  rw [update]
  cases tree.slot? uri with
  | none => rfl
  | some slot => exact map_modify fun p _ => blind p

theorem get?_update (tree : Tree) (uri : String) (slot : Slot) :
    (tree.update uri change).get? slot =
      if tree.slot? uri = some slot then (tree.get? slot).map change else tree.get? slot := by
  rw [update]
  cases tree.slot? uri with
  | none => simp
  | some written =>
      rw [get?_modify]
      simp only [Option.some.injEq, eq_comm]

/-- As long as a write keeps the last name of the address of what it reaches, no address leads
elsewhere afterwards. -/
theorem slot?_update_of_find? {tree : Tree} {uri : String}
    (keeps : ∀ p, tree.find? uri = some p → Uri.name (change p).uri = Uri.name p.uri)
    (other : String) : (tree.update uri change).slot? other = tree.slot? other := by
  rw [update]
  cases found : tree.slot? uri with
  | none => rfl
  | some slot =>
      apply slot?_modify
      intro p present
      exact keeps p (find?_eq_some_iff.mpr ⟨slot, found, present⟩)

/-- Addresses are told apart by their text alone: a write is read back under its own address, and
under no other. -/
theorem find?_update_of_find? {tree : Tree} {uri : String}
    (keeps : ∀ p, tree.find? uri = some p → Uri.name (change p).uri = Uri.name p.uri)
    (other : String) :
    (tree.update uri change).find? other =
      if other = uri then (tree.find? other).map change else tree.find? other := by
  rw [find?, find?, slot?_update_of_find? keeps]
  cases found : tree.slot? other with
  | none => simp
  | some slot =>
      rw [Option.bind_some, Option.bind_some, get?_update]
      by_cases same : other = uri
      · subst same
        simp [found]
      · have apart : tree.slot? uri ≠ some slot := by
          intro shared
          exact same (slot?_injective found shared)
        simp [same, apart]

variable (keeps : ∀ p, Uri.name (change p).uri = Uri.name p.uri)

include keeps in
theorem slot?_update (tree : Tree) (uri other : String) :
    (tree.update uri change).slot? other = tree.slot? other :=
  slot?_update_of_find? (fun p _ => keeps p) other

include keeps in
theorem find?_update (tree : Tree) (uri other : String) :
    (tree.update uri change).find? other =
      if other = uri then (tree.find? other).map change else tree.find? other :=
  find?_update_of_find? (fun p _ => keeps p) other

end Tree

end StoryMarkers
