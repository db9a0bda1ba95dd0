import Mathlib.Data.String.Basic
import StoryMarkers.Proofs.Json.Reading

set_option autoImplicit false

namespace StoryMarkers.Json

mutual

/-- Every fraction in the document is read back from its own text. -/
def Document.Exact : Document → Prop
  | .number text => ∀ x, text.value = .ok (.float x) → (Value.number (.float x)).ReadsBack
  | .array items => items.Exact
  | .object entries => entries.Exact
  | _ => True

def Items.Exact : Items → Prop
  | .more item rest => item.Exact ∧ rest.Exact
  | _ => True

def Entries.Exact : Entries → Prop
  | .more _ value rest => value.Exact ∧ rest.Exact
  | _ => True

end

section Sorting

variable {α : Type}

/-- Whether the keys of some entries strictly increase. -/
def Increasing (entries : List (String × α)) : Prop :=
  entries.Pairwise fun first second => first.1 < second.1

theorem mem_insertEntry {key : String} {value : α} {entries : List (String × α)}
    {entry : String × α} (inside : entry ∈ insertEntry key value entries) :
    entry = (key, value) ∨ entry ∈ entries := by
  induction entries with
  | nil => simpa [insertEntry] using inside
  | cons first rest ih =>
      obtain ⟨k, v⟩ := first
      rw [insertEntry] at inside
      split at inside
      · rcases List.mem_cons.mp inside with here | there
        · exact Or.inl here
        · exact Or.inr (List.mem_cons_of_mem _ there)
      · split at inside
        · rcases List.mem_cons.mp inside with here | there
          · exact Or.inl here
          · exact Or.inr there
        · rcases List.mem_cons.mp inside with here | there
          · exact Or.inr (here ▸ List.mem_cons_self)
          · exact (ih there).imp_right (List.mem_cons_of_mem _)

theorem increasing_insertEntry (key : String) (value : α) {entries : List (String × α)}
    (sorted : Increasing entries) : Increasing (insertEntry key value entries) := by
  induction entries with
  | nil => exact List.pairwise_singleton _ _
  | cons first rest ih =>
      obtain ⟨k, v⟩ := first
      obtain ⟨least, tail⟩ := List.pairwise_cons.mp sorted
      rw [insertEntry]
      split
      · rename_i same
        exact List.pairwise_cons.mpr ⟨fun entry inside => same ▸ least entry inside, tail⟩
      · split
        · rename_i less
          refine List.pairwise_cons.mpr ⟨fun entry inside => ?_, sorted⟩
          rcases List.mem_cons.mp inside with rfl | there
          · exact less
          · exact lt_trans less (least entry there)
        · rename_i other notLess
          refine List.pairwise_cons.mpr ⟨fun entry inside => ?_, ih tail⟩
          rcases mem_insertEntry inside with rfl | there
          · exact lt_of_le_of_ne (not_lt.mp notLess) fun same => other same.symm
          · exact least entry there

/-- An entry with a key behind all others goes to the end. -/
theorem insertEntry_last {key : String} {value : α} {entries : List (String × α)}
    (last : ∀ entry ∈ entries, entry.1 < key) :
    insertEntry key value entries = entries ++ [(key, value)] := by
  induction entries with
  | nil => rfl
  | cons first rest ih =>
      obtain ⟨k, v⟩ := first
      have less : k < key := last (k, v) List.mem_cons_self
      rw [insertEntry, if_neg (ne_of_gt less), if_neg (lt_asymm less),
        ih fun entry inside => last entry (List.mem_cons_of_mem _ inside)]
      rfl

/-- Adds some entries, one after the other, to a list sorted by key. -/
def insertEntries (entries sorted : List (String × α)) : List (String × α) :=
  entries.foldl (fun sorted (key, value) => insertEntry key value sorted) sorted

theorem insertEntries_cons (key : String) (value : α) (entries sorted : List (String × α)) :
    insertEntries ((key, value) :: entries) sorted =
      insertEntries entries (insertEntry key value sorted) := rfl

theorem mem_insertEntries {entries sorted : List (String × α)} {entry : String × α}
    (inside : entry ∈ insertEntries entries sorted) : entry ∈ entries ∨ entry ∈ sorted := by
  induction entries generalizing sorted with
  | nil => exact Or.inr inside
  | cons first rest ih =>
      obtain ⟨key, value⟩ := first
      rw [insertEntries_cons] at inside
      rcases ih inside with there | there
      · exact Or.inl (List.mem_cons_of_mem _ there)
      · rcases mem_insertEntry there with rfl | before
        · exact Or.inl List.mem_cons_self
        · exact Or.inr before

theorem mem_sortEntries {entries : List (String × α)} {entry : String × α}
    (inside : entry ∈ sortEntries entries) : entry ∈ entries := by
  rcases mem_insertEntries inside with there | impossible
  · exact there
  · cases impossible

theorem increasing_insertEntries (entries : List (String × α)) {sorted : List (String × α)}
    (increasing : Increasing sorted) : Increasing (insertEntries entries sorted) := by
  induction entries generalizing sorted with
  | nil => exact increasing
  | cons first rest ih => exact ih (increasing_insertEntry first.1 first.2 increasing)

theorem increasing_sortEntries (entries : List (String × α)) :
    Increasing (sortEntries entries) :=
  increasing_insertEntries entries List.Pairwise.nil

theorem insertEntries_of_increasing {entries sorted : List (String × α)}
    (increasing : Increasing (sorted ++ entries)) :
    insertEntries entries sorted = sorted ++ entries := by
  induction entries generalizing sorted with
  | nil => exact (List.append_nil sorted).symm
  | cons first rest ih =>
      obtain ⟨key, value⟩ := first
      have last : ∀ entry ∈ sorted, entry.1 < key := fun entry inside =>
        (List.pairwise_append.mp increasing).2.2 entry inside (key, value) List.mem_cons_self
      have spelled : sorted ++ (key, value) :: rest = (sorted ++ [(key, value)]) ++ rest := by
        simp
      rw [insertEntries_cons, insertEntry_last last, spelled]
      exact ih (spelled ▸ increasing)

/-- Sorting leaves sorted entries as they are. -/
theorem sortEntries_of_increasing {entries : List (String × α)}
    (increasing : Increasing entries) : sortEntries entries = entries :=
  insertEntries_of_increasing increasing

end Sorting

section Parts

variable {α : Type} {item : Document → Except Fault α}

/-- What every item decodes to holds of all that the items decode to. -/
theorem Items.forall_of_decode {P : α → Prop} {items : Items} {xs : List α}
    (each : ∀ doc x, doc.Exact → item doc = .ok x → P x) (exact : items.Exact)
    (decoded : items.decode item = .ok xs) : ∀ x ∈ xs, P x := by
  induction xs generalizing items with
  | nil => exact fun x impossible => nomatch impossible
  | cons x xs ih =>
      cases items with
      | done => cases decoded
      | cut b => cases decoded
      | more doc rest =>
          obtain ⟨here, there⟩ := exact
          obtain ⟨y, first, decoded⟩ := bind_eq_ok decoded
          obtain ⟨ys, further, same⟩ := bind_eq_ok decoded
          cases same
          intro z inside
          rcases List.mem_cons.mp inside with rfl | inside
          · exact each doc z here first
          · exact ih there further z inside

theorem Entries.forall_of_decode {P : α → Prop} {entries : Entries} {xs : List (String × α)}
    (each : ∀ doc x, doc.Exact → item doc = .ok x → P x) (exact : entries.Exact)
    (decoded : entries.decode item = .ok xs) : ∀ x ∈ xs, P x.2 := by
  induction xs generalizing entries with
  | nil => exact fun x impossible => nomatch impossible
  | cons x xs ih =>
      cases entries with
      | done => cases decoded
      | cut b => cases decoded
      | more key doc rest =>
          obtain ⟨here, there⟩ := exact
          obtain ⟨name, -, decoded⟩ := bind_eq_ok decoded
          obtain ⟨y, first, decoded⟩ := bind_eq_ok decoded
          obtain ⟨ys, further, same⟩ := bind_eq_ok decoded
          cases same
          intro z inside
          rcases List.mem_cons.mp inside with rfl | inside
          · exact each doc y here first
          · exact ih there further z inside

theorem forall_of_decodeList {P : α → Prop} {item : Decoder α} {depth : Nat} {doc : Document}
    {xs : List α} (each : ∀ doc x, doc.Exact → item depth doc = .ok x → P x) (exact : doc.Exact)
    (decoded : decodeList item (depth + 1) doc = .ok xs) : ∀ x ∈ xs, P x := by
  cases doc with
  | array items => exact Items.forall_of_decode each exact decoded
  | _ => cases decoded

/-- Items are decoded from the documents of their values. -/
theorem decode_itemsDocument {toJson : α → Value} {xs : List α}
    (back : ∀ x ∈ xs, item (toJson x).document = .ok x) :
    (Value.itemsDocument (xs.map toJson)).decode item = .ok xs := by
  induction xs with
  | nil => rfl
  | cons x xs ih =>
      rw [List.map_cons, Value.itemsDocument, Items.decode, back x List.mem_cons_self,
        ih fun y inside => back y (List.mem_cons_of_mem _ inside)]
      rfl

theorem decodeList_document {item : Decoder α} {depth : Nat} {toJson : α → Value} {xs : List α}
    (back : ∀ x ∈ xs, item depth (toJson x).document = .ok x) :
    decodeList item (depth + 1) (Value.array (xs.map toJson)).document = .ok xs :=
  decode_itemsDocument back

theorem decode_entriesDocument {item : Document → Except Fault Value}
    {entries : List (String × Value)}
    (back : ∀ entry ∈ entries, item entry.2.document = .ok entry.2) :
    (Value.entriesDocument entries).decode item = .ok entries := by
  induction entries with
  | nil => rfl
  | cons entry entries ih =>
      obtain ⟨key, value⟩ := entry
      rw [Value.entriesDocument, Entries.decode, back (key, value) List.mem_cons_self,
        ih fun y inside => back y (List.mem_cons_of_mem _ inside)]
      rfl

end Parts

namespace Value

theorem exact_itemsDocument {items : List Value} (all : ∀ item ∈ items, item.document.Exact) :
    (itemsDocument items).Exact := by
  induction items with
  | nil => trivial
  | cons item items ih =>
      exact ⟨all item List.mem_cons_self, ih fun v inside => all v (List.mem_cons_of_mem _ inside)⟩

theorem exact_entriesDocument {entries : List (String × Value)}
    (all : ∀ entry ∈ entries, entry.2.document.Exact) : (entriesDocument entries).Exact := by
  induction entries with
  | nil => trivial
  | cons entry entries ih =>
      exact ⟨all entry List.mem_cons_self, ih fun v inside => all v (List.mem_cons_of_mem _ inside)⟩

/-- A text that was printed holds no fractions but those of its value. -/
theorem Legible.exact {v : Value} (legible : v.Legible) : v.document.Exact := by
  induction legible with
  | number n back =>
      obtain ⟨text, left, -, -, document, value⟩ := back.document
      rw [document]
      intro x fraction
      rw [value, Except.ok.injEq] at fraction
      rwa [← fraction]
  | array items all ih => exact exact_itemsDocument ih
  | object entries all ih => exact exact_entriesDocument ih
  | _ => trivial

/-- A value that some document decodes to, with so many levels of nesting allowed. -/
inductive Readable : Nat → Value → Prop
  | null (depth : Nat) : Readable depth .null
  | bool (depth : Nat) (b : Bool) : Readable depth (.bool b)
  | number (depth : Nat) (n : Number) (back : ReadsBack (.number n)) : Readable depth (.number n)
  | string (depth : Nat) (s : String) : Readable depth (.string s)
  | array (depth : Nat) (items : List Value) (all : ∀ item ∈ items, Readable depth item) :
      Readable (depth + 1) (.array items)
  | object (depth : Nat) (entries : List (String × Value)) (sorted : Increasing entries)
      (all : ∀ entry ∈ entries, Readable depth entry.2) : Readable (depth + 1) (.object entries)

variable {depth : Nat} {v : Value}

theorem Readable.legible (readable : v.Readable depth) : v.Legible := by
  induction readable with
  | null => exact .null
  | bool depth b => exact .bool b
  | number depth n back => exact .number n back
  | string depth s => exact .string s
  | array depth items all ih => exact .array items ih
  | object depth entries sorted all ih => exact .object entries ih

/-- More nesting does no harm. -/
theorem Readable.mono {more : Nat} (readable : v.Readable depth) (enough : depth ≤ more) :
    v.Readable more := by
  induction readable generalizing more with
  | null => exact .null more
  | bool depth b => exact .bool more b
  | number depth n back => exact .number more n back
  | string depth s => exact .string more s
  | array depth items all ih =>
      obtain ⟨more, rfl⟩ := Nat.exists_eq_succ_of_ne_zero (Nat.ne_zero_of_lt enough)
      exact .array more items fun item inside => ih item inside (Nat.le_of_succ_le_succ enough)
  | object depth entries sorted all ih =>
      obtain ⟨more, rfl⟩ := Nat.exists_eq_succ_of_ne_zero (Nat.ne_zero_of_lt enough)
      exact .object more entries sorted fun entry inside =>
        ih entry inside (Nat.le_of_succ_le_succ enough)

/-- A value that could be decoded is decoded from its own document. -/
theorem Readable.decodeValue_document (readable : v.Readable depth) :
    decodeValue depth v.document = .ok v := by
  induction readable with
  | null depth => exact decodeValue_null depth
  | bool depth b => exact decodeValue_bool depth b
  | number depth n back =>
      obtain ⟨text, left, -, -, document, value⟩ := back.document
      rw [document, decodeValue_number, value]
      rfl
  | string depth s => exact decodeValue_string depth (.ok s)
  | array depth items all ih =>
      have back : (itemsDocument (items.map id)).decode (decodeValue depth) = .ok items :=
        decode_itemsDocument ih
      rw [List.map_id] at back
      rw [document, decodeValue, back]
      rfl
  | object depth entries sorted all ih =>
      rw [document, decodeValue, decode_entriesDocument ih]
      simp [sortEntries_of_increasing sorted]

end Value

/-- A number that is no fraction is a whole number of 64 bits. -/
theorem bounds_of_value {text : NumberText} {n : Int} (value : text.value = .ok (.int n)) :
    -0x8000000000000000 ≤ n ∧ n < UInt64.size := by
  have nearest (numeral : Decimal.Numeral) :
      NumberText.value.nearest numeral ≠ .ok (.int n) := by
    simp only [NumberText.value.nearest]
    split <;> simp
  cases text with
  | fraction numeral => exact absurd value (nearest numeral)
  | whole negative size =>
      cases negative with
      | false =>
          rw [NumberText.value] at value
          split at value
          · cases value
            omega
          · exact absurd value (nearest _)
      | true =>
          rw [NumberText.value] at value
          split at value
          · cases value
            omega
          · exact absurd value (nearest _)

theorem readsBack_of_exact {text : NumberText} {n : Number} (exact : (Document.number text).Exact)
    (value : text.value = .ok n) : (Value.number n).ReadsBack := by
  cases n with
  | int n =>
      obtain ⟨low, high⟩ := bounds_of_value value
      exact Value.readsBack_int low high
  | float x => exact exact x value

/-- What a document decodes to fits into the nesting that was allowed. -/
theorem readable_of_decodeValue {depth : Nat} {doc : Document} {v : Value} (exact : doc.Exact)
    (decoded : decodeValue depth doc = .ok v) : v.Readable depth := by
  induction depth using Nat.strongRecOn generalizing doc v with
  | ind depth ih =>
      cases readAs_of_decodeValue decoded with
      | null => exact .null depth
      | bool _ b => exact .bool depth b
      | number _ text n value => exact .number depth n (readsBack_of_exact exact value)
      | string _ s => exact .string depth s
      | array depth items xs read =>
          exact .array depth xs (Items.forall_of_decode
            (fun doc x => ih depth (Nat.lt_succ_self depth)) exact read)
      | object depth entries xs read =>
          have all := Entries.forall_of_decode
            (fun doc x => ih depth (Nat.lt_succ_self depth)) exact read
          exact .object depth (sortEntries xs) (increasing_sortEntries xs)
            fun entry inside => all entry (mem_sortEntries inside)

end StoryMarkers.Json
