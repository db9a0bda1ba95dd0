import Mathlib.Data.List.Forall2
import StoryMarkers.Catalog
import StoryMarkers.Proofs.Json.Entries

set_option autoImplicit false

namespace StoryMarkers

open Json

/-- Whether the first element with a property comes after some elements without it. -/
def FirstWith {α : Type} (P : α → Prop) (x : α) (xs : List α) : Prop :=
  ∃ before after, xs = before ++ x :: after ∧ P x ∧ ∀ other ∈ before, ¬ P other

theorem find?_eq_some_iff_firstWith {α : Type} {P : α → Prop} [DecidablePred P] {x : α}
    {xs : List α} : (xs.find? fun y => P y) = some x ↔ FirstWith P x xs := by
  rw [List.find?_eq_some_iff_append]
  simp only [FirstWith, decide_eq_true_eq, Bool.not_eq_eq_eq_not, Bool.not_true,
    decide_eq_false_iff_not]
  constructor
  · rintro ⟨holds, before, after, split, others⟩
    exact ⟨before, after, split, holds, others⟩
  · rintro ⟨before, after, split, holds, others⟩
    exact ⟨holds, before, after, split, others⟩

theorem mapM_eq_some_iff {α β : Type} {f : α → Option β} {xs : List α} {ys : List β} :
    xs.mapM f = some ys ↔ List.Forall₂ (fun x y => f x = some y) xs ys := by
  induction xs generalizing ys with
  | nil => cases ys <;> simp
  | cons x xs ih =>
      cases ys with
      | nil => simp [List.mapM_cons, Option.bind_eq_some_iff]
      | cons y ys => simp [List.mapM_cons, Option.bind_eq_some_iff, ih]

theorem exists_forall₂_iff {α β : Type} {f : α → Option β} {xs : List α} :
    (∃ ys, List.Forall₂ (fun x y => f x = some y) xs ys) ↔ ∀ x ∈ xs, (f x).isSome = true := by
  induction xs with
  | nil => simp
  | cons x xs ih =>
      rw [List.forall_mem_cons, ← ih, Option.isSome_iff_exists]
      constructor
      · rintro ⟨_, _ | ⟨here, later⟩⟩
        exact ⟨⟨_, here⟩, _, later⟩
      · rintro ⟨⟨y, here⟩, ys, later⟩
        exact ⟨y :: ys, .cons here later⟩

theorem Json.Value.asString?_eq_some_iff {v : Value} {s : String} :
    v.asString? = some s ↔ v = .string s := by
  cases v <;> simp [asString?]

namespace Planet

/-- An object with a string for the name of the planet; its text, where there is one, is a string
too. -/
def Describes (source : Value) : Prop :=
  ∃ entries name, source = .object entries ∧ entries.lookup "planet" = some (.string name) ∧
    ∀ info, entries.lookup "info" = some info → ∃ text, info = .string text

/-- The fields of a description, with an empty text if it had none. -/
def completed (entries : List (String × Value)) : List (String × Value) :=
  match entries.lookup "info" with
  | some _ => entries
  | none => insertEntry "info" (.string "") entries

/-- A planet is written as its description was: the same value stands under every key, and the two
are the same object once the fields are in order. -/
def Restores (source : Value) (planet : Planet) : Prop :=
  ∃ entries written, source = .object entries ∧ planet.toJson = .object written ∧
    (∀ key, written.lookup key = (completed entries).lookup key) ∧
    (Increasing entries → sortEntries written = completed entries)

theorem lookup_completed_info (entries : List (String × Value)) :
    (completed entries).lookup "info" =
      some ((entries.lookup "info").getD (.string "")) := by
  rw [completed]
  cases found : entries.lookup "info" with
  | none => simp [lookup_insertEntry]
  | some info => simp [found]

theorem lookup_completed {entries : List (String × Value)} {key : String} (other : key ≠ "info") :
    (completed entries).lookup key = entries.lookup key := by
  rw [completed]
  cases found : entries.lookup "info" with
  | none => simp [lookup_insertEntry, other]
  | some info => rfl

theorem increasing_completed {entries : List (String × Value)} (increasing : Increasing entries) :
    Increasing (completed entries) := by
  rw [completed]
  split
  · exact increasing
  · exact increasing_insertEntry "info" _ increasing

/-- Where the three parts of a planet come from. -/
@[mk_iff]
structure MadeFrom (planet : Planet) (entries : List (String × Value)) : Prop where
  name : entries.lookup "planet" = some (.string planet.name)
  info : (completed entries).lookup "info" = some (.string planet.info)
  extra : planet.extra = entries.filter fun entry => entry.1 != "planet" && entry.1 != "info"

theorem ofValue?_eq_some_iff {source : Value} {planet : Planet} :
    ofValue? source = some planet ↔
      ∃ entries, source = .object entries ∧ planet.MadeFrom entries := by
  obtain ⟨name, text, extra⟩ := planet
  cases source with
  | object entries =>
      simp only [madeFrom_iff, lookup_completed_info, Value.object.injEq, exists_eq_left',
        Option.some.injEq]
      cases found : entries.lookup "info" <;>
        simp [ofValue?, found, Option.bind_eq_some_iff, Value.asString?_eq_some_iff] <;>
        exact fun _ _ => eq_comm
  | _ => simp [ofValue?]

theorem isSome_ofValue?_iff {source : Value} :
    (ofValue? source).isSome = true ↔ Describes source := by
  rw [Option.isSome_iff_exists]
  constructor
  · rintro ⟨planet, read⟩
    obtain ⟨entries, same, made⟩ := ofValue?_eq_some_iff.mp read
    refine ⟨entries, planet.name, same, made.name, fun info found => ⟨planet.info, ?_⟩⟩
    simpa [lookup_completed_info, found] using made.info
  · rintro ⟨entries, name, same, named, string⟩
    cases found : entries.lookup "info" with
    | none =>
        exact ⟨⟨name, "", _⟩, ofValue?_eq_some_iff.mpr
          ⟨entries, same, named, by simp [lookup_completed_info, found], rfl⟩⟩
    | some info =>
        obtain ⟨text, rfl⟩ := string info found
        exact ⟨⟨name, text, _⟩, ofValue?_eq_some_iff.mpr
          ⟨entries, same, named, by simp [lookup_completed_info, found], rfl⟩⟩

/-- The fields of a planet, in the order they are written in. -/
def written (planet : Planet) : List (String × Value) :=
  ("planet", .string planet.name) :: ("info", .string planet.info) :: planet.extra

variable {source : Value} {planet : Planet} {entries : List (String × Value)}

theorem MadeFrom.lookup_written (made : planet.MadeFrom entries) (key : String) :
    planet.written.lookup key = (completed entries).lookup key := by
  rw [written, lookup_cons_eq, lookup_cons_eq]
  split
  · rename_i here
    rw [here, lookup_completed (by decide), made.name]
  · rename_i notName
    split
    · rename_i here
      rw [here, made.info]
    · rename_i notText
      rw [lookup_completed notText, made.extra,
        lookup_filter fun key => key != "planet" && key != "info"]
      simp [notName, notText]

/-- No field is written twice. -/
theorem MadeFrom.distinct_written (made : planet.MadeFrom entries)
    (increasing : Increasing entries) :
    planet.written.Pairwise fun first second => first.1 ≠ second.1 := by
  have others : ∀ entry ∈ planet.extra, entry.1 ≠ "planet" ∧ entry.1 ≠ "info" := by
    intro entry inside
    rw [made.extra] at inside
    simpa using (List.mem_filter.mp inside).2
  have apart : planet.extra.Pairwise fun first second => first.1 ≠ second.1 := by
    rw [made.extra]
    exact (increasing.filter _).imp fun less => ne_of_lt less
  refine List.pairwise_cons.mpr ⟨?_, List.pairwise_cons.mpr ⟨?_, apart⟩⟩
  · intro entry inside
    rcases List.mem_cons.mp inside with rfl | inside
    · exact (by decide : "planet" ≠ "info")
    · exact (others entry inside).1.symm
  · exact fun entry inside => (others entry inside).2.symm

theorem restores_of_ofValue? (read : ofValue? source = some planet) : Restores source planet := by
  obtain ⟨entries, same, made⟩ := ofValue?_eq_some_iff.mp read
  refine ⟨entries, planet.written, same, rfl, made.lookup_written, fun increasing => ?_⟩
  apply (increasing_sortEntries planet.written).eq_of_lookup (increasing_completed increasing)
  intro key
  rw [lookup_sortEntries (made.distinct_written increasing), made.lookup_written]

end Planet

namespace Catalog

/-- The list of descriptions that some data holds. -/
inductive Holds : Value → List Value → Prop
  | unnamed (entries : List (String × Value)) (missing : entries.lookup "planets" = none) :
      Holds (.object entries) []
  | named (entries : List (String × Value)) (sources : List Value)
      (found : entries.lookup "planets" = some (.array sources)) :
      Holds (.object entries) sources
  | empty : Holds (.array []) []
  | alone (sources : List Value) : Holds (.array [.array sources]) sources

/-- Data with a list in which every item describes a planet. -/
def Complete (data : Value) (sources : List Value) : Prop :=
  Holds data sources ∧ ∀ source ∈ sources, Planet.Describes source

/-- Data holds one list at most. -/
theorem Holds.unique {data : Value} {sources others : List Value} (holds : Holds data sources)
    (further : Holds data others) : sources = others := by
  cases holds with
  | unnamed entries missing =>
      cases further with
      | unnamed => rfl
      | named _ _ found => exact absurd (missing.symm.trans found) (by simp)
  | named entries sources found =>
      cases further with
      | unnamed _ missing => exact absurd (missing.symm.trans found) (by simp)
      | named _ _ found' => simpa using found.symm.trans found'
  | empty =>
      cases further
      rfl
  | alone =>
      cases further
      rfl

theorem map_planetsOfValue?_eq_some_iff {list : Value} {catalog : Catalog} :
    (planetsOfValue? list).map Catalog.mk = some catalog ↔ ∃ sources, list = .array sources ∧
      List.Forall₂ (fun source planet => Planet.ofValue? source = some planet)
        sources catalog.planets := by
  obtain ⟨planets⟩ := catalog
  cases list <;> simp [planetsOfValue?, mapM_eq_some_iff]

/-- Data is decoded by the list it holds, planet by planet. -/
theorem ofValue?_eq_some_iff {data : Value} {catalog : Catalog} :
    ofValue? data = some catalog ↔ ∃ sources, Holds data sources ∧
      List.Forall₂ (fun source planet => Planet.ofValue? source = some planet)
        sources catalog.planets := by
  constructor
  · intro read
    cases data with
    | object entries =>
        rw [ofValue?] at read
        cases found : entries.lookup "planets" with
        | none =>
            rw [found] at read
            cases read
            exact ⟨[], .unnamed entries found, .nil⟩
        | some list =>
            rw [found] at read
            obtain ⟨sources, rfl, all⟩ := map_planetsOfValue?_eq_some_iff.mp read
            exact ⟨sources, .named entries sources found, all⟩
    | array items =>
        match items with
        | [] =>
            cases read
            exact ⟨[], .empty, .nil⟩
        | [list] =>
            obtain ⟨sources, rfl, all⟩ := map_planetsOfValue?_eq_some_iff.mp read
            exact ⟨sources, .alone sources, all⟩
        | _ :: _ :: _ => cases read
    | _ => cases read
  · rintro ⟨sources, holds, all⟩
    have taken := map_planetsOfValue?_eq_some_iff.mpr ⟨sources, rfl, all⟩
    cases holds with
    | unnamed entries missing =>
        cases taken
        rw [ofValue?, missing]
        rfl
    | named entries sources found => rw [ofValue?, found, ← taken]
    | empty =>
        cases taken
        rfl
    | alone => exact taken

theorem restores_of_complete {data : Value} {sources : List Value}
    (complete : Complete data sources) : ∃ catalog, ofValue? data = some catalog ∧
      List.Forall₂ Planet.Restores sources catalog.planets := by
  obtain ⟨holds, each⟩ := complete
  obtain ⟨planets, all⟩ := exists_forall₂_iff.mpr fun source inside =>
    Planet.isSome_ofValue?_iff.mpr (each source inside)
  exact ⟨⟨planets⟩, ofValue?_eq_some_iff.mpr ⟨sources, holds, all⟩,
    all.imp fun _ _ => Planet.restores_of_ofValue?⟩

/-- Data decodes if it holds a list of descriptions. -/
theorem isSome_ofValue?_iff {data : Value} :
    (ofValue? data).isSome = true ↔ ∃ sources, Complete data sources := by
  rw [Option.isSome_iff_exists]
  constructor
  · rintro ⟨catalog, read⟩
    obtain ⟨sources, holds, all⟩ := ofValue?_eq_some_iff.mp read
    have decoded := exists_forall₂_iff.mp ⟨catalog.planets, all⟩
    exact ⟨sources, holds, fun source inside =>
      Planet.isSome_ofValue?_iff.mp (decoded source inside)⟩
  · rintro ⟨sources, complete⟩
    obtain ⟨catalog, read, -⟩ := restores_of_complete complete
    exact ⟨catalog, read⟩

/-- The first answer with the key decides alone. -/
theorem ofFetched_of_firstWith {fetched : List Fetched} {key : String} {entry : Fetched}
    (first : FirstWith (fun entry => entry.id = key) entry fetched) :
    ofFetched fetched key =
      if entry.succeeded then (entry.data.bind ofValue?).getD {} else {} := by
  rw [ofFetched, find?_eq_some_iff_firstWith.mpr first]
  obtain ⟨id, _ | _, _ | data⟩ := entry <;> rfl

theorem ofFetched_of_incomplete {fetched : List Fetched} {key : String} {entry : Fetched}
    (first : FirstWith (fun entry => entry.id = key) entry fetched) {data : Value}
    (given : entry.data = some data) (incomplete : ¬ ∃ sources, Complete data sources) :
    ofFetched fetched key = {} := by
  have undecoded : ofValue? data = none :=
    Option.not_isSome_iff_eq_none.mp (mt isSome_ofValue?_iff.mp incomplete)
  rw [ofFetched_of_firstWith first, given, Option.bind_some, undecoded]
  exact ite_self _

/-- A catalog is taken over whole or not at all. The first answer with the key decides: if it
failed, came without data or has data of another shape, the catalog is empty, whatever answers
follow; otherwise every description in the data becomes one planet that is written as it was. -/
theorem taken_whole_or_empty (fetched : List Fetched) (key : String) :
    ((∀ entry ∈ fetched, entry.id ≠ key) → ofFetched fetched key = {}) ∧
    (∀ entry, FirstWith (fun entry => entry.id = key) entry fetched →
      ofFetched fetched key = ofFetched [entry] key ∧
      (entry.succeeded = false ∨ entry.data = none → ofFetched fetched key = {}) ∧
      (∀ data, entry.data = some data → (¬ ∃ sources, Complete data sources) →
        ofFetched fetched key = {}) ∧
      ∀ data sources, entry.data = some data → Holds data sources →
        ((∃ source ∈ sources, ¬ Planet.Describes source) → ofFetched fetched key = {}) ∧
        (entry.succeeded = true → (∀ source ∈ sources, Planet.Describes source) →
          List.Forall₂ Planet.Restores sources (ofFetched fetched key).planets)) ∧
    (∀ data, (ofValue? data).isSome = true ↔ ∃ sources, Complete data sources) ∧
    ∀ (catalog : Catalog) (name : String) (planet : Planet), catalog.find? name = some planet ↔
      FirstWith (fun planet => planet.name = name) planet catalog.planets := by
  refine ⟨?_, ?_, fun data => isSome_ofValue?_iff, fun catalog name planet => ?_⟩
  · intro others
    have missing : (fetched.find? fun entry => entry.id = key) = none :=
      List.find?_eq_none.mpr fun entry inside => by simpa using others entry inside
    rw [ofFetched, missing]
  · intro entry first
    have outcome := ofFetched_of_firstWith first
    refine ⟨?_, ?_, fun data => ofFetched_of_incomplete first, ?_⟩
    · obtain ⟨-, -, -, here, -⟩ := first
      have alone : FirstWith (fun entry => entry.id = key) entry [entry] :=
        ⟨[], [], rfl, here, fun other impossible => nomatch impossible⟩
      rw [outcome, ofFetched_of_firstWith alone]
    · rintro (failed | missing)
      · rw [outcome, failed]
        rfl
      · rw [outcome, missing]
        exact ite_self _
    · intro data sources given holds
      constructor
      · rintro ⟨source, inside, malformed⟩
        refine ofFetched_of_incomplete first given ?_
        rintro ⟨others, holds', each⟩
        exact malformed (each source (holds.unique holds' ▸ inside))
      · intro succeeded each
        obtain ⟨catalog, read, all⟩ := restores_of_complete ⟨holds, each⟩
        rw [outcome, succeeded, given]
        simpa [read] using all
  · exact find?_eq_some_iff_firstWith

/-- A planet with an icon, and one more description. -/
def twoPlanets (second : Value) : List Value :=
  [.object [("icon", .string "mars.png"), ("info", .string "Red"), ("planet", .string "Mars")],
    second]

/-- An answer of another name, and two that share a name. -/
def answers (second : Value) : List Fetched :=
  [⟨"scenes", true, none⟩,
    ⟨"planets", true, some (.object [("planets", .array (twoPlanets second))])⟩,
    ⟨"planets", true, some (.object [])⟩]

theorem firstWith_answers (second : Value) : FirstWith (fun entry => entry.id = "planets")
    ⟨"planets", true, some (.object [("planets", .array (twoPlanets second))])⟩
    (answers second) :=
  ⟨[⟨"scenes", true, none⟩], [⟨"planets", true, some (.object [])⟩], rfl, rfl, by simp⟩

/-- Two planets are taken over, the second without a text; with a broken one there are none. -/
theorem two_planets_or_none :
    let moon : Value := .object [("planet", .string "Moon")]
    let catalog := ofFetched (answers moon) "planets"
    List.Forall₂ Planet.Restores (twoPlanets moon) catalog.planets ∧
      catalog.find? "Moon" = some ⟨"Moon", "", []⟩ ∧
      ofFetched (answers .null) "planets" = {} ∧ ofFetched (answers moon) "moons" = {} := by
  intro moon catalog
  obtain ⟨-, decided, -, found⟩ := taken_whole_or_empty (answers moon) "planets"
  obtain ⟨-, decided', -⟩ := taken_whole_or_empty (answers .null) "planets"
  obtain ⟨absent, -⟩ := taken_whole_or_empty (answers moon) "moons"
  obtain ⟨-, -, -, whole⟩ := decided _ (firstWith_answers moon)
  obtain ⟨-, -, -, emptied⟩ := decided' _ (firstWith_answers .null)
  have holds (second : Value) :
      Holds (.object [("planets", .array (twoPlanets second))]) (twoPlanets second) :=
    .named _ _ rfl
  have described : ∀ source ∈ twoPlanets moon, Planet.Describes source := by
    simp only [twoPlanets, List.forall_mem_cons, ← Planet.isSome_ofValue?_iff]
    exact ⟨rfl, rfl, fun source impossible => nomatch impossible⟩
  have broken : ∃ source ∈ twoPlanets .null, ¬ Planet.Describes source := by
    refine ⟨.null, List.mem_cons_of_mem _ List.mem_cons_self, ?_⟩
    rintro ⟨entries, name, impossible, -⟩
    cases impossible
  refine ⟨(whole _ _ rfl (holds moon)).2 rfl described, ?_,
    (emptied _ _ rfl (holds .null)).1 broken, absent (by simp [answers])⟩
  exact (found catalog "Moon" _).mpr
    ⟨[⟨"Mars", "Red", [("icon", .string "mars.png")]⟩], [], rfl, rfl, by simp⟩

end Catalog

end StoryMarkers
