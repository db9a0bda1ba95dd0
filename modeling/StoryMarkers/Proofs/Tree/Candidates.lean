import StoryMarkers.Proofs.Tree.Slots

set_option autoImplicit false

namespace StoryMarkers

private theorem findSome?_filter_of_first {α β : Type} {xs : List α} {keep : α → Bool}
    {f : α → Option β} {index : Nat} {x : α} {b : β} (reached : xs[index]? = some x)
    (kept : keep x = true) (hit : f x = some b)
    (missed : ∀ j y, j < index → xs[j]? = some y → keep y = true → f y = none) :
    (xs.filter keep).findSome? f = some b := by
  induction xs generalizing index with
  | nil => cases reached
  | cons y rest ih =>
      cases index with
      | zero =>
          cases reached
          rw [List.filter_cons_of_pos kept, List.findSome?_cons, hit]
      | succ index =>
          have later : (rest.filter keep).findSome? f = some b := by
            apply ih reached
            intro j z before found
            exact missed (j + 1) z (Nat.succ_lt_succ before) found
          by_cases kept' : keep y = true
          · have none := missed 0 y (Nat.succ_pos index) rfl kept'
            rw [List.filter_cons_of_pos kept', List.findSome?_cons, none, later]
          · rw [List.filter_cons_of_neg kept', later]

namespace Owner

/-- The owners that names lead to from an owner down, in the order of the tree. -/
def called : List String → Owner → List Owner
  | [], owner => [owner]
  | name :: names, owner => (owner.subowners.filter (·.identifier = name)).flatMap (called names)

/-- The search ends at the first owner called by the names that has a property to accept. -/
theorem find?_called (accept : Property → Bool) (names : List String) (owner : Owner) :
    ((called names owner).flatMap (·.properties)).find? accept =
      (search (·.properties.any accept) names owner).bind fun path =>
        (below? path owner).bind (·.properties.find? accept) := by
  induction names generalizing owner with
  | nil =>
      by_cases accepted : owner.properties.any accept
      · simp [called, search, accepted, below?]
      · have absent : owner.properties.find? accept = none := by simpa using accepted
        simp [called, search, accepted, absent]
  | cons name names ih =>
      rw [called, List.flatMap_assoc, List.find?_flatMap]
      simp only [ih]
      cases found : search (·.properties.any accept) (name :: names) owner with
      | none =>
          rw [Option.bind_none, List.findSome?_eq_none_iff]
          intro child member
          obtain ⟨inside, fits⟩ := List.mem_filter.mp member
          obtain ⟨index, reached⟩ := List.mem_iff_getElem?.mp inside
          rw [search_cons, List.findSome?_eq_none_iff] at found
          have missed := found (child, index) (List.mk_mem_zipIdx_iff_getElem?.mpr reached)
          simp only [of_decide_eq_true fits, ↓reduceIte, Option.map_eq_none_iff] at missed
          rw [missed, Option.bind_none]
      | some path =>
          obtain ⟨index, child, rest, rfl, reached, fits, deeper, missed⟩ :=
            search_cons_eq_some found
          obtain ⟨-, last, below, accepted⟩ := (isLeast_of_search_eq_some deeper).1
          obtain ⟨p, first⟩ := Option.isSome_iff_exists.mp
            (List.find?_isSome.mpr (List.any_eq_true.mp accepted))
          have whole : below? (index :: rest) owner = some last :=
            below?_cons_eq_some_iff.mpr ⟨child, reached, below⟩
          rw [Option.bind_some, whole, Option.bind_some, first]
          apply findSome?_filter_of_first reached (decide_eq_true fits)
          · rw [deeper, Option.bind_some, below, Option.bind_some, first]
          · intro j sibling before found' same
            rw [missed j sibling before found' (of_decide_eq_true same), Option.bind_none]

end Owner

namespace Tree

/-- An address leads to the first property of its last name among the own properties of the owners
that its other names call. -/
theorem find?_eq_called (tree : Tree) (uri : String) :
    tree.find? uri =
      ((Owner.called (Uri.owners uri) tree.root).flatMap (·.properties)).find?
        (·.answersTo (Uri.name uri)) := by
  rw [Owner.find?_called, find?, slot?_eq, Option.bind_assoc]
  congr 1
  funext path
  cases reached : Owner.below? path tree.root with
  | none => rfl
  | some owner =>
      rw [Option.bind_some, Option.bind_some, List.find?_eq_bind_findIdx?_getElem?,
        Owner.propertyIndex?, Option.bind_map]
      congr 1
      funext index
      rw [Function.comp_apply, get?_eq, reached, Option.bind_some]

end Tree

end StoryMarkers
