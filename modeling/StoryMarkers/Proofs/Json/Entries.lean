import StoryMarkers.Proofs.Json.Decoding

set_option autoImplicit false

namespace StoryMarkers.Json

variable {α : Type}

theorem lookup_cons_eq (key : String) (value : α) (entries : List (String × α)) (k : String) :
    ((key, value) :: entries).lookup k = if k = key then some value else entries.lookup k := by
  rw [List.lookup_cons]
  by_cases same : k = key <;> simp [same, beq_eq_false_iff_ne.mpr]

theorem lookup_eq_none_of_forall_ne {entries : List (String × α)} {k : String}
    (missing : ∀ entry ∈ entries, entry.1 ≠ k) : entries.lookup k = none :=
  List.lookup_eq_none_iff.mpr fun entry inside => by simpa using (missing entry inside).symm

theorem lookup_insertEntry (key : String) (value : α) (entries : List (String × α)) (k : String) :
    (insertEntry key value entries).lookup k =
      if k = key then some value else entries.lookup k := by
  induction entries with
  | nil => exact lookup_cons_eq key value [] k
  | cons first rest ih =>
      obtain ⟨other, v⟩ := first
      rw [insertEntry]
      split
      · rename_i same
        subst same
        simp only [lookup_cons_eq]
        split <;> rfl
      · rename_i different
        split
        · exact lookup_cons_eq key value ((other, v) :: rest) k
        · simp only [lookup_cons_eq, ih]
          by_cases here : k = other
          · subst here
            rw [if_pos rfl, if_neg (Ne.symm different), if_pos rfl]
          · rw [if_neg here, if_neg here]

/-- Entries with different keys end up under their keys, whatever the order they are added in. -/
theorem lookup_insertEntries {entries : List (String × α)}
    (distinct : entries.Pairwise fun first second => first.1 ≠ second.1)
    (sorted : List (String × α)) (k : String) :
    (insertEntries entries sorted).lookup k = (entries.lookup k).or (sorted.lookup k) := by
  induction entries generalizing sorted with
  | nil => rfl
  | cons first rest ih =>
      obtain ⟨key, value⟩ := first
      obtain ⟨apart, tail⟩ := List.pairwise_cons.mp distinct
      rw [insertEntries_cons, ih tail, lookup_insertEntry, lookup_cons_eq]
      by_cases same : k = key
      · subst same
        rw [lookup_eq_none_of_forall_ne fun entry inside => (apart entry inside).symm,
          if_pos rfl, if_pos rfl]
        rfl
      · rw [if_neg same, if_neg same]

theorem lookup_sortEntries {entries : List (String × α)}
    (distinct : entries.Pairwise fun first second => first.1 ≠ second.1) (k : String) :
    (sortEntries entries).lookup k = entries.lookup k :=
  (lookup_insertEntries distinct [] k).trans Option.or_none

theorem lookup_filter (keep : String → Bool) (entries : List (String × α)) (k : String) :
    (entries.filter fun entry => keep entry.1).lookup k =
      if keep k then entries.lookup k else none := by
  induction entries with
  | nil => exact (ite_self none).symm
  | cons first rest ih =>
      obtain ⟨key, value⟩ := first
      by_cases same : k = key
      · subst same
        cases kept : keep k <;> simp [kept, ih]
      · cases kept : keep key <;> simp [kept, lookup_cons_eq, ih, same]

/-- Nothing is found under a key below the first one. -/
theorem Increasing.le_of_lookup {key : String} {value v : α} {entries : List (String × α)}
    (increasing : Increasing ((key, value) :: entries)) {k : String}
    (found : ((key, value) :: entries).lookup k = some v) : key ≤ k := by
  by_contra less
  have missing : ((key, value) :: entries).lookup k = none := by
    refine lookup_eq_none_of_forall_ne fun entry inside => ne_of_gt ?_
    rcases List.mem_cons.mp inside with rfl | later
    · exact not_le.mp less
    · exact lt_trans (not_le.mp less) ((List.pairwise_cons.mp increasing).1 entry later)
  rw [missing] at found
  cases found

theorem Increasing.lookup_tail {key : String} {value : α} {entries : List (String × α)}
    (increasing : Increasing ((key, value) :: entries)) : entries.lookup key = none :=
  lookup_eq_none_of_forall_ne fun entry inside =>
    ne_of_gt ((List.pairwise_cons.mp increasing).1 entry inside)

/-- Entries in the order of their keys are known by what is found in them. -/
theorem Increasing.eq_of_lookup {xs ys : List (String × α)} (left : Increasing xs)
    (right : Increasing ys) (same : ∀ k, xs.lookup k = ys.lookup k) : xs = ys := by
  induction xs generalizing ys with
  | nil =>
      cases ys with
      | nil => rfl
      | cons first rest =>
          obtain ⟨key, value⟩ := first
          simpa [lookup_cons_eq] using same key
  | cons first rest ih =>
      obtain ⟨key, value⟩ := first
      cases ys with
      | nil => simpa [lookup_cons_eq] using same key
      | cons first' rest' =>
          obtain ⟨key', value'⟩ := first'
          have here : ((key, value) :: rest).lookup key = some value := List.lookup_cons_self
          have there : ((key', value') :: rest').lookup key' = some value' :=
            List.lookup_cons_self
          have keys : key = key' :=
            le_antisymm (left.le_of_lookup ((same key').trans there))
              (right.le_of_lookup ((same key).symm.trans here))
          subst keys
          cases here.symm.trans ((same key).trans there)
          have tails : rest = rest' := by
            refine ih (List.pairwise_cons.mp left).2 (List.pairwise_cons.mp right).2 fun k => ?_
            by_cases first : k = key
            · rw [first, left.lookup_tail, right.lookup_tail]
            · simpa [lookup_cons_eq, first] using same k
          rw [tails]

end StoryMarkers.Json
