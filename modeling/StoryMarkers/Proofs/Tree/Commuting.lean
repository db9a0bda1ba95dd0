import StoryMarkers.Proofs.Tree.Writing

set_option autoImplicit false

namespace StoryMarkers

namespace Owner

/-- Owners of one shape with the same properties at the end of every path are the same. -/
theorem ext_propertiesAt? {f : Property → Property} {owner other : Owner}
    (shape : owner.map f = other.map f)
    (same : ∀ path, propertiesAt? path owner = propertiesAt? path other) : owner = other := by
  induction owner using inductOn generalizing other with
  | step owner ih =>
      have identifier := congrArg Owner.identifier shape
      have tags := congrArg Owner.tags shape
      have below := congrArg Owner.subowners shape
      simp only [map_identifier, map_tags, map_subowners] at identifier tags below
      apply ext identifier tags
      · apply List.ext_getElem?
        intro index
        have aligned := congrArg (·[index]?) below
        simp only [List.getElem?_map] at aligned
        cases found : owner.subowners[index]? with
        | none =>
            rw [found, Option.map_none, eq_comm, Option.map_eq_none_iff] at aligned
            exact aligned.symm
        | some child =>
            rw [found, Option.map_some, eq_comm, Option.map_eq_some_iff] at aligned
            obtain ⟨sibling, found', alike⟩ := aligned
            have equal : child = sibling := by
              apply ih child (List.mem_of_getElem? found) alike.symm
              intro path
              have deeper := same (index :: path)
              simpa only [propertiesAt?, below?, found, found', Option.bind_some] using deeper
            rw [found', equal]
      · have own := same []
        simpa only [propertiesAt?, below?, Option.map_some, Option.some.injEq] using own

end Owner

namespace Tree

variable {tree other : Tree} {f g : Property → Property}

/-- Trees of one shape with the same properties in the same slots are the same. -/
theorem ext_get? (shape : tree.map f = other.map f)
    (same : ∀ slot, tree.get? slot = other.get? slot) : tree = other := by
  have roots := congrArg root shape
  rw [root_map, root_map] at roots
  apply root_injective
  apply Owner.ext_propertiesAt? roots
  intro path
  have reached := congrArg (Owner.below? path) roots
  rw [Owner.below?_map, Owner.below?_map] at reached
  have here : ∀ index : Nat, (Owner.propertiesAt? path tree.root).bind (·[index]?) =
      (Owner.propertiesAt? path other.root).bind (·[index]?) := by
    intro index
    have slots := same ⟨path, index⟩
    rwa [get?_eq_propertiesAt?, get?_eq_propertiesAt?] at slots
  simp only [Owner.propertiesAt?] at here ⊢
  cases found : Owner.below? path tree.root with
  | none =>
      rw [found, Option.map_none, eq_comm, Option.map_eq_none_iff] at reached
      rw [reached]
  | some last =>
      rw [found, Option.map_some, eq_comm, Option.map_eq_some_iff] at reached
      obtain ⟨last', found', -⟩ := reached
      rw [found, found'] at here
      rw [found', Option.map_some, Option.map_some]
      exact congrArg some (List.ext_getElem? here)

theorem label_congr {p q : Property} (same : Uri.name p.uri = Uri.name q.uri) :
    label p = label q := by
  rw [label, label, same]

/-- Writes under different addresses commute, whatever the tree looks like. -/
theorem update_comm (keeps : ∀ p, Uri.name (f p).uri = Uri.name p.uri)
    (keeps' : ∀ p, Uri.name (g p).uri = Uri.name p.uri) {uri uri' : String}
    (apart : uri ≠ uri') (tree : Tree) :
    (tree.update uri f).update uri' g = (tree.update uri' g).update uri f := by
  have blind : ∀ p, label (f p) = label p := fun p => label_congr (keeps p)
  have blind' : ∀ p, label (g p) = label p := fun p => label_congr (keeps' p)
  have shape : ((tree.update uri f).update uri' g).map label =
      ((tree.update uri' g).update uri f).map label := by
    rw [map_update blind', map_update blind, map_update blind, map_update blind']
  apply ext_get? shape
  intro slot
  simp only [get?_update, slot?_update keeps, slot?_update keeps']
  by_cases first : tree.slot? uri = some slot
  · have second : tree.slot? uri' ≠ some slot :=
      fun found => apart (slot?_injective first found)
    simp only [first, second, ↓reduceIte]
  · simp only [first, ↓reduceIte]

end Tree

end StoryMarkers
