import StoryMarkers.Tree.Lookup

set_option autoImplicit false

namespace StoryMarkers.Owner

/-- The answer and the path of a walk that finds some indices, or none. -/
def outcome (path : Array Nat) : Option (List Nat) → Bool × Array Nat
  | some indices => (true, path ++ indices)
  | none => (false, path)

theorem run_onto {step : StateM (Array Nat) Bool} {found? : Option (List Nat)}
    (run : ∀ path, step.run path = outcome path found?) (index : Nat) (path : Array Nat) :
    (onto index step).run path = outcome path (found?.map (index :: ·)) := by
  rw [onto]
  simp only [StateT.run_bind, StateT.run_modify, pure_bind, run]
  cases found? with
  | none =>
      change (false, (path.push index).pop) = (false, path)
      rw [Array.pop_push]
  | some indices =>
      change (true, path.push index ++ indices) = (true, path ++ (index :: indices))
      rw [Array.appendList_cons]

theorem run_pure (found : Bool) (path : Array Nat) :
    (pure found : StateM (Array Nat) Bool).run path =
      outcome path (if found then some [] else none) := by
  cases found <;> rfl

/-- Of several steps the first counts that leads somewhere. -/
theorem run_anyM {α : Type} {step : α → StateM (Array Nat) Bool} {found? : α → Option (List Nat)}
    (each : ∀ x path, (step x).run path = outcome path (found? x)) (xs : List α)
    (path : Array Nat) : (xs.anyM step).run path = outcome path (xs.findSome? found?) := by
  induction xs with
  | nil => rfl
  | cons x rest ih =>
      rw [List.anyM_cons, List.findSome?_cons, StateT.run_bind, each]
      cases found? x with
      | none => exact ih
      | some indices => rfl

theorem descend_of_run {accept : Owner → Bool} {names : List String} {owners : List Owner}
    {found? : Option (List Nat)}
    (run : ∀ path, (walk accept names owners).run path = outcome path found?) :
    descend accept names owners = found? := by
  rw [descend, run]
  cases found? with
  | none => rfl
  | some indices => exact congrArg some Array.toList_appendList

/-- The search from an owner down; without names to spell the owner itself is the place. -/
def search (accept : Owner → Bool) : List String → Owner → Option (List Nat)
  | [], owner => if accept owner then some [] else none
  | name :: names, owner => descend accept (name :: names) owner.subowners

theorem search_eq_descend {names : List String} (some : names ≠ []) (accept : Owner → Bool)
    (owner : Owner) : search accept names owner = descend accept names owner.subowners := by
  cases names with
  | nil => exact absurd rfl some
  | cons name names => rfl

theorem ne_nil_of_descend {accept : Owner → Bool} {names : List String} {owners : List Owner}
    {path : List Nat} (found : descend accept names owners = some path) : names ≠ [] := by
  rintro rfl
  cases found

/-- One more name takes the walk one level further down. -/
theorem run_walk_cons {accept : Owner → Bool} {names : List String}
    (each : ∀ owner path,
      (if names.isEmpty then pure (accept owner) else walk accept names owner.subowners).run path =
        outcome path (search accept names owner))
    (name : String) (owners : List Owner) (path : Array Nat) :
    (walk accept (name :: names) owners).run path =
      outcome path (owners.zipIdx.findSome? fun (owner, index) =>
        if owner.identifier = name then (search accept names owner).map (index :: ·)
        else none) := by
  rw [walk]
  apply run_anyM
  rintro ⟨owner, index⟩ path
  by_cases fits : owner.identifier = name
  · simpa only [fits, ne_eq, not_true_eq_false, ↓reduceIte] using run_onto (each owner) index path
  · simp only [fits, ne_eq, not_false_eq_true, ↓reduceIte]
    exact run_pure false path

/-- The induction is on the names. In each step what a walk finds is what it finds from an empty
path, because it is the same from every path. -/
theorem run_step (accept : Owner → Bool) (names : List String) (owner : Owner) (path : Array Nat) :
    (if names.isEmpty then pure (accept owner) else walk accept names owner.subowners).run path =
      outcome path (search accept names owner) := by
  induction names generalizing owner path with
  | nil => exact run_pure (accept owner) path
  | cons name names ih =>
      have run := run_walk_cons ih name owner.subowners
      rw [search, descend_of_run run]
      exact run path

theorem search_cons (accept : Owner → Bool) (name : String) (names : List String) (owner : Owner) :
    search accept (name :: names) owner =
      owner.subowners.zipIdx.findSome? fun (child, index) =>
        if child.identifier = name then (search accept names child).map (index :: ·) else none := by
  rw [search]
  exact descend_of_run (run_walk_cons (run_step accept names) name owner.subowners)

/-- Whatever the path, a walk does to it what it finds, and nothing else. -/
theorem run_walk (accept : Owner → Bool) (names : List String) (owners : List Owner)
    (path : Array Nat) :
    (walk accept names owners).run path = outcome path (descend accept names owners) := by
  cases names with
  | nil => rfl
  | cons name names =>
      have run := run_walk_cons (run_step accept names) name owners
      rw [descend_of_run run]
      exact run path

end StoryMarkers.Owner
