import StoryMarkers.Proofs.Json.Decoding

/-!
Records. Whether its text is an object or an array, a record is built up field by field: what the
start value has and every field keeps holds of the record, and no required field is left out. A part
that only one field sets comes from the document of that field.
-/

set_option autoImplicit false

namespace StoryMarkers.Json

/-- The first document under a key. -/
def Entries.under? (name : String) : Entries → Option Document
  | .more (.ok key) doc rest => if key = name then some doc else rest.under? name
  | .more (.error _) _ rest => rest.under? name
  | _ => none

def Items.at? : Nat → Items → Option Document
  | 0, .more doc _ => some doc
  | index + 1, .more _ rest => rest.at? index
  | _, _ => none

/-- The document of a field in the text of a record: under its name, or in its place. -/
def Document.field? (name : String) (index : Nat) : Document → Option Document
  | .object entries => entries.under? name
  | .array items => items.at? index
  | _ => none

namespace Record

variable {ρ : Type} {record : Record ρ} {depth : Nat} {P : List String → ρ → Prop}

/-- Whether reading any field keeps a property of the record and of the names read so far. -/
def Keeps (record : Record ρ) (depth : Nat) (P : List String → ρ → Prop) : Prop :=
  ∀ field ∈ record.fields, ∀ seen x y doc, doc.Exact → P seen x →
    field.read depth doc x = .ok y → P (field.name :: seen) y

/-- An entry is skipped, or it is the first one for its field and sets what the field says. -/
theorem readEntries_more_eq_ok {key : Except Malformed String} {doc : Document} {rest : Entries}
    {x y : ρ} {seen names : List String}
    (read : record.readEntries depth (.more key doc rest) x seen = .ok (y, names)) :
    ∃ name, key = .ok name ∧
      ((record.field? name = none ∧ record.readEntries depth rest x seen = .ok (y, names)) ∨
        ∃ field z, record.field? name = some field ∧ field.name ∉ seen ∧
          field.read depth doc x = .ok z ∧
          record.readEntries depth rest z (field.name :: seen) = .ok (y, names)) := by
  obtain ⟨name, spelled, chosen⟩ := bind_eq_ok read
  refine ⟨name, ok_of_ofMalformed spelled, ?_⟩
  split at chosen
  · rename_i unknown
    obtain ⟨-, -, later⟩ := bind_eq_ok chosen
    exact Or.inl ⟨unknown, later⟩
  · rename_i field found
    split at chosen
    · cases chosen
    · rename_i unread
      obtain ⟨z, step, later⟩ := bind_eq_ok chosen
      exact Or.inr ⟨field, z, found, by simpa using unread, step, later⟩

/-- An object is decoded by its entries, and no required field is left out. -/
theorem readEntries_of_decode {entries : Entries} {x : ρ}
    (decoded : record.decode (depth + 1) (.object entries) = .ok x) :
    ∃ names, record.readEntries depth entries record.start [] = .ok (x, names) ∧
      ∀ field ∈ record.fields, field.required = true → field.name ∈ names := by
  obtain ⟨⟨y, names⟩, read, decoded⟩ := bind_eq_ok decoded
  dsimp only at decoded
  split at decoded
  · cases decoded
  · rename_i complete
    cases decoded
    refine ⟨names, read, fun field inside need => ?_⟩
    simpa [need] using List.find?_eq_none.mp complete field inside

theorem readEntries_keeps (keeps : record.Keeps depth P) {entries : Entries} {x y : ρ}
    {seen names : List String} (exact : entries.Exact) (holds : P seen x)
    (read : record.readEntries depth entries x seen = .ok (y, names)) : P names y := by
  fun_induction record.readEntries depth entries x seen with
  | case1 x seen =>
      cases read
      exact holds
  | case2 x seen b => cases read
  | case3 key doc rest x seen skipped further =>
      obtain ⟨here, there⟩ := exact
      obtain ⟨name, -, ⟨-, later⟩ | ⟨field, z, found, -, step, later⟩⟩ :=
        readEntries_more_eq_ok read
      · exact skipped there holds later
      · have member : field ∈ record.fields := List.mem_of_find?_eq_some found
        exact further field z there (keeps field member seen x z doc here holds step) later

/-- A field is left out where the items end, or it is set from the next item. -/
theorem readItems_cons_eq_ok {field : Field ρ} {fields : List (Field ρ)} {index : Nat}
    {items : Items} {x y : ρ}
    (read : record.readItems depth (field :: fields) index items x = .ok y) :
    (items = .done ∧ field.required = false ∧
        record.readItems depth fields index .done x = .ok y) ∨
      ∃ doc rest z, items = .more doc rest ∧ field.read depth doc x = .ok z ∧
        record.readItems depth fields (index + 1) rest z = .ok y := by
  cases items with
  | cut b => cases read
  | done =>
      rw [readItems] at read
      split at read
      · cases read
      · rename_i free
        exact Or.inl ⟨rfl, by simpa using free, read⟩
  | more doc rest =>
      obtain ⟨z, step, later⟩ := bind_eq_ok read
      exact Or.inr ⟨doc, rest, z, rfl, step, later⟩

theorem readItems_keeps (keeps : record.Keeps depth P) {fields : List (Field ρ)}
    (among : ∀ field ∈ fields, field ∈ record.fields) {index : Nat} {items : Items} {x y : ρ}
    {seen : List String} (exact : items.Exact) (holds : P seen x)
    (read : record.readItems depth fields index items x = .ok y) :
    ∃ names, P names y ∧ (∀ name ∈ seen, name ∈ names) ∧
      ∀ field ∈ fields, field.required = true → field.name ∈ names := by
  induction fields generalizing index items x seen with
  | nil =>
      obtain ⟨-, -, same⟩ := bind_eq_ok read
      cases same
      exact ⟨seen, holds, fun name inside => inside, fun field impossible => nomatch impossible⟩
  | cons field fields ih =>
      have member : field ∈ record.fields := among field List.mem_cons_self
      have rest : ∀ other ∈ fields, other ∈ record.fields := fun other inside =>
        among other (List.mem_cons_of_mem _ inside)
      rcases readItems_cons_eq_ok read with
        ⟨rfl, free, later⟩ | ⟨doc, items, z, rfl, step, later⟩
      · obtain ⟨names, holds, kept, required⟩ := ih rest exact holds later
        refine ⟨names, holds, kept, fun other inside need => ?_⟩
        rcases List.mem_cons.mp inside with rfl | inside
        · rw [free] at need
          cases need
        · exact required other inside need
      · obtain ⟨here, there⟩ := exact
        obtain ⟨names, holds, kept, required⟩ :=
          ih rest there (keeps field member seen x z doc here holds step) later
        refine ⟨names, holds, fun name inside => kept name (List.mem_cons_of_mem _ inside), ?_⟩
        intro other inside need
        rcases List.mem_cons.mp inside with rfl | inside
        · exact kept _ List.mem_cons_self
        · exact required other inside need

/-- What holds of the start value and is kept by every field holds of a decoded record. -/
theorem holds_of_decode (start : P [] record.start) (keeps : record.Keeps depth P) {doc : Document}
    {x : ρ} (exact : doc.Exact) (decoded : record.decode (depth + 1) doc = .ok x) :
    ∃ names, P names x ∧
      ∀ field ∈ record.fields, field.required = true → field.name ∈ names := by
  cases doc with
  | array items =>
      obtain ⟨names, holds, -, required⟩ :=
        readItems_keeps keeps (fun field inside => inside) exact start decoded
      exact ⟨names, holds, required⟩
  | object entries =>
      obtain ⟨names, read, required⟩ := readEntries_of_decode decoded
      exact ⟨names, readEntries_keeps keeps exact start read, required⟩
  | _ => cases decoded

/-- A record is never read without a level of nesting for it. -/
theorem decode_zero (doc : Document) (x : ρ) : record.decode 0 doc ≠ .ok x := by
  cases doc <;> exact nofun

/-! Where a part of a record comes from, if only one field sets it. -/

section Parts

variable {σ : Type} {part : ρ → σ} {before after : List (Field ρ)} {source : Field ρ}

/-- Whether reading a field leaves some part of a record alone. -/
def Spares (depth : Nat) (part : ρ → σ) (field : Field ρ) : Prop :=
  ∀ doc x y, field.read depth doc x = .ok y → part y = part x

/-- Whether only one field sets some part of a record, which goes by its own name alone. -/
structure Sources (record : Record ρ) (depth : Nat) (part : ρ → σ) (before : List (Field ρ))
    (source : Field ρ) (after : List (Field ρ)) : Prop where
  order : record.fields = before ++ source :: after
  known : ∀ key, record.field? key = some source ↔ key = source.name
  others : ∀ field ∈ before ++ after, field.name ≠ source.name ∧ Spares depth part field

theorem Sources.other_of_field? (sources : record.Sources depth part before source after)
    {key : String} (different : key ≠ source.name) {field : Field ρ}
    (found : record.field? key = some field) :
    field.name ≠ source.name ∧ Spares depth part field := by
  have member : field ∈ before ++ source :: after := by
    rw [← sources.order]
    exact List.mem_of_find?_eq_some found
  rcases List.mem_append.mp member with early | late
  · exact sources.others field (List.mem_append_left _ early)
  · rcases List.mem_cons.mp late with rfl | late
    · exact absurd ((sources.known key).mp found) different
    · exact sources.others field (List.mem_append_right _ late)

/-- Fields are read at most once, so what all unread fields spare stays as it is. -/
theorem readEntries_spares {entries : Entries} {x y : ρ} {seen names : List String}
    (spares : ∀ key field, record.field? key = some field → field.name ∉ seen →
      Spares depth part field)
    (read : record.readEntries depth entries x seen = .ok (y, names)) : part y = part x := by
  fun_induction record.readEntries depth entries x seen with
  | case1 x seen =>
      cases read
      rfl
  | case2 x seen b => cases read
  | case3 key doc rest x seen skipped further =>
      obtain ⟨name, -, ⟨-, later⟩ | ⟨field, z, found, unread, step, later⟩⟩ :=
        readEntries_more_eq_ok read
      · exact skipped spares later
      · have rest : part y = part z := further field z (fun key other found apart =>
          spares key other found fun before => apart (List.mem_cons_of_mem _ before)) later
        exact rest.trans (spares name field found unread doc x z step)

theorem Sources.part_of_read (sources : record.Sources depth part before source after)
    {entries : Entries} {x y : ρ} {seen names : List String}
    (read : record.readEntries depth entries x seen = .ok (y, names))
    (done : source.name ∈ seen) : part y = part x := by
  refine readEntries_spares (fun key field found unread => ?_) read
  refine (sources.other_of_field? ?_ found).2
  rintro rfl
  cases ((sources.known _).mpr rfl).symm.trans found
  exact unread done

/-- The part is set from the document under the name of its field, or not at all. -/
theorem Sources.part_of_readEntries (sources : record.Sources depth part before source after)
    {entries : Entries} {x y : ρ} {seen names : List String}
    (read : record.readEntries depth entries x seen = .ok (y, names))
    (unread : source.name ∉ seen) :
    (entries.under? source.name = none ∧ part y = part x) ∨
      ∃ doc z w, entries.under? source.name = some doc ∧ source.read depth doc z = .ok w ∧
        part y = part w := by
  fun_induction record.readEntries depth entries x seen with
  | case1 x seen =>
      cases read
      exact Or.inl ⟨rfl, rfl⟩
  | case2 x seen b => cases read
  | case3 key doc rest x seen skipped further =>
      obtain ⟨name, rfl, ⟨unknown, later⟩ | ⟨field, z, found, _, step, later⟩⟩ :=
        readEntries_more_eq_ok read
      all_goals
        rw [Entries.under?]
        by_cases here : name = source.name
      · rw [here, (sources.known _).mpr rfl] at unknown
        cases unknown
      · rw [if_neg here]
        exact skipped later unread
      · rw [here, (sources.known _).mpr rfl] at found
        cases found
        rw [if_pos here]
        exact Or.inr ⟨doc, x, z, rfl, step, sources.part_of_read later List.mem_cons_self⟩
      · obtain ⟨other, spares⟩ := sources.other_of_field? here found
        have set := further field z later (by simp [unread, other.symm])
        rwa [if_neg here, ← spares doc x z step]

theorem readItems_spares {fields : List (Field ρ)}
    (spares : ∀ field ∈ fields, Spares depth part field) {index : Nat} {items : Items} {x y : ρ}
    (read : record.readItems depth fields index items x = .ok y) : part y = part x := by
  induction fields generalizing index items x with
  | nil =>
      obtain ⟨-, -, same⟩ := bind_eq_ok read
      cases same
      rfl
  | cons field fields ih =>
      obtain ⟨here, later⟩ := List.forall_mem_cons.mp spares
      rcases readItems_cons_eq_ok read with ⟨-, -, read⟩ | ⟨doc, rest, z, -, step, read⟩
      · exact ih later read
      · rw [ih later read, here doc x z step]

/-- The part is set from the item in the place of its field, or not at all. -/
theorem part_of_readItems (spares : ∀ field ∈ before ++ after, Spares depth part field)
    {index : Nat} {items : Items} {x y : ρ}
    (read : record.readItems depth (before ++ source :: after) index items x = .ok y) :
    (items.at? before.length = none ∧ part y = part x) ∨
      ∃ doc z w, items.at? before.length = some doc ∧ source.read depth doc z = .ok w ∧
        part y = part w := by
  induction before generalizing index items x with
  | nil =>
      rcases readItems_cons_eq_ok read with
        ⟨rfl, -, read⟩ | ⟨doc, rest, z, rfl, step, read⟩
      · exact Or.inl ⟨rfl, readItems_spares spares read⟩
      · exact Or.inr ⟨doc, x, z, rfl, step, readItems_spares spares read⟩
  | cons field before ih =>
      obtain ⟨here, later⟩ := List.forall_mem_cons.mp spares
      rcases readItems_cons_eq_ok read with
        ⟨rfl, -, read⟩ | ⟨doc, rest, z, rfl, step, read⟩
      · rcases ih later read with missing | ⟨doc, z, w, impossible, -⟩
        · exact Or.inl ⟨rfl, missing.2⟩
        · cases before <;> cases impossible
      · rw [← here doc x z step]
        exact ih later read

/-- The part of a record that one field sets comes from the document of that field. -/
theorem Sources.part_of_decode (sources : record.Sources depth part before source after)
    {doc : Document} {x : ρ} (decoded : record.decode (depth + 1) doc = .ok x) :
    (doc.field? source.name before.length = none ∧ part x = part record.start) ∨
      ∃ own z w, doc.field? source.name before.length = some own ∧
        source.read depth own z = .ok w ∧ part x = part w := by
  cases doc with
  | array items =>
      rw [decode, sources.order] at decoded
      exact part_of_readItems (fun field inside => (sources.others field inside).2) decoded
  | object entries =>
      obtain ⟨names, read, -⟩ := readEntries_of_decode decoded
      exact sources.part_of_readEntries read List.not_mem_nil
  | _ => cases decoded

/-- What all fields spare is as it is in the start value. -/
theorem part_of_decode_of_spares (spares : ∀ field ∈ record.fields, Spares depth part field)
    {doc : Document} {x : ρ} (decoded : record.decode (depth + 1) doc = .ok x) :
    part x = part record.start := by
  cases doc with
  | array items => exact readItems_spares spares decoded
  | object entries =>
      obtain ⟨names, read, -⟩ := readEntries_of_decode decoded
      exact readEntries_spares
        (fun key field found _ => spares field (List.mem_of_find?_eq_some found)) read
  | _ => cases decoded

end Parts

/-! Reading what was written: an object with an entry for each of some fields. -/

theorem readEntries_more {key : String} {doc : Document} {rest : Entries} {x y : ρ}
    {seen : List String} {field : Field ρ} {result : Except Fault (ρ × List String)}
    (named : record.field? key = some field) (unread : field.name ∉ seen)
    (step : field.read depth doc x = .ok y)
    (further : record.readEntries depth rest y (field.name :: seen) = result) :
    record.readEntries depth (.more (.ok key) doc rest) x seen = result := by
  rw [← further]
  simp [readEntries, ofMalformed, bind, Except.bind, named, unread, step]

theorem decode_object {entries : Entries} {x : ρ} {names : List String}
    (read : record.readEntries depth entries record.start [] = .ok (x, names))
    (complete : ∀ field ∈ record.fields, field.required = true → field.name ∈ names) :
    record.decode (depth + 1) (.object entries) = .ok x := by
  have none : record.fields.find? (fun field => field.required && !names.contains field.name) =
      Option.none := by
    refine List.find?_eq_none.mpr fun field inside missing => ?_
    simp only [Bool.and_eq_true, Bool.not_eq_true', List.contains_eq_mem, decide_eq_false_iff_not]
      at missing
    exact missing.2 (complete field inside missing.1)
  simp only [decode, read, bind, Except.bind, none]

end Record

end StoryMarkers.Json
