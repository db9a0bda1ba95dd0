import StoryMarkers.Proofs.Json.Nesting
import StoryMarkers.Proofs.Snapshot.Properties

set_option autoImplicit false

namespace StoryMarkers.Property

open Json

/-- The property that is read from the text of a property. -/
def reread (p : Property) : Except Fault Property := Json.decode decode p.toJson.compact

/-- A property with the value that its content is read as. -/
def settled (p : Property) : Property :=
  { p with value := (ofContent p.content).1, quoted := (ofContent p.content).2 }

theorem settled_eq_self_iff {p : Property} :
    p.settled = p ↔ ofContent p.content = (p.value, p.quoted) := by
  obtain ⟨uri, name, value, quoted, listeners⟩ := p
  simp [settled, Prod.ext_iff]

/-- A content with fractions that are read back can be read, however deep it nests. -/
theorem representable_content {p : Property}
    (exact : p.quoted = false → (readValue p.value.toList).1.Exact) : p.content.Representable := by
  rw [content]
  split
  · exact ⟨0, .string 0 p.value⟩
  · rename_i raw
    split
    · exact ⟨0, .null 0⟩
    · split
      · rename_i v read
        exact ⟨maxDepth, readable_of_decodeValue (exact (by simpa using raw))
          (decode_eq_ok.mp read).1⟩
      · exact ⟨0, .string 0 p.value⟩

theorem nesting_toJson (p : Property) : p.toJson.nesting = max 1 p.content.nesting + 1 := by
  have description : p.descriptionJson.nesting = 1 := by
    rw [descriptionJson]
    cases p.name <;> rfl
  rw [toJson_eq]
  simp [Value.nesting, Value.entriesNesting, description]

section Settling

variable {p : Property}

/-- A property whose text fits into the nesting of a text has a content that leaves room for it. -/
theorem readable_content (exact : p.quoted = false → (readValue p.value.toList).1.Exact)
    (fits : p.toJson.nesting ≤ maxDepth) : p.content.Readable 126 := by
  refine Value.readable_iff.mpr ⟨representable_content exact, ?_⟩
  rw [nesting_toJson] at fits
  exact (max_le_iff.mp (Nat.le_of_succ_le_succ fits)).2

theorem content_settled (readable : p.content.Readable 126) : p.settled.content = p.content :=
  content_ofContent readable (by decide) rfl

theorem settled_settled (readable : p.content.Readable 126) : p.settled.settled = p.settled := by
  rw [settled_eq_self_iff, content_settled readable]
  rfl

theorem toJson_settled (readable : p.content.Readable 126) : p.settled.toJson = p.toJson := by
  rw [toJson_eq, toJson_eq, content_settled readable]
  rfl

theorem storable_settled (readable : p.content.Readable 126) : p.settled.Storable maxDepth := by
  refine ⟨by decide, ?_, ?_⟩
  · rw [content_settled readable]
    exact readable
  · rw [content_settled readable]
    rfl

theorem reread_eq (readable : p.content.Readable 126) : p.reread = .ok p.settled := by
  have storable := storable_settled readable
  rw [reread, ← toJson_settled readable, storable.legible.decode_compact]
  exact storable.decode_toJson

/-- What a property must hold to come back as it is: a string, nothing, or the compact text of
some value that is neither. -/
theorem settled_eq_self_iff_compact (readable : p.content.Readable 126) :
    p.settled = p ↔ p.quoted = true ∨ p.value = "" ∨ ∃ v : Value,
      v.Representable ∧ v.nesting < maxDepth ∧ v ≠ .null ∧ (∀ s, v ≠ .string s) ∧
        p.value = v.compact := by
  rw [settled_eq_self_iff]
  cases raw : p.quoted with
  | true => simp [content, raw, ofContent]
  | false =>
      simp only [Bool.false_eq_true, false_or]
      constructor
      · intro kept
        obtain ⟨whole, small⟩ := Value.readable_iff.mp readable
        cases held : p.content with
        | string s =>
            rw [held] at kept
            cases kept
        | null =>
            rw [held] at kept
            exact Or.inl (Prod.mk.inj kept).1.symm
        | _ =>
            rw [held] at kept whole small
            exact Or.inr ⟨_, whole, Nat.lt_succ_of_le small, by simp, by simp,
              (Prod.mk.inj kept).1.symm⟩
      · rintro (empty | ⟨v, whole, small, something, unquoted, text⟩)
        · rw [content, raw, if_neg Bool.false_ne_true, if_pos empty, empty]
          rfl
        · have within : v.Readable 126 :=
            Value.readable_iff.mpr ⟨whole, Nat.le_of_lt_succ small⟩
          rw [content_of_compact within (by decide) raw text, text]
          cases v with
          | null => exact absurd rfl something
          | string s => exact absurd rfl (unquoted s)
          | _ => rfl

end Settling

/-- Only the field of the value sets the text of a property and whether it was a string. -/
theorem sources_value (depth : Nat) :
    record.Sources depth (fun p => (p.value, p.quoted)) [record.fields.get ⟨0, by decide⟩]
      (record.fields.get ⟨1, by decide⟩) [record.fields.get ⟨2, by decide⟩] where
  order := rfl
  known key := by
    simp only [Record.field?, record, List.get_eq_getElem, List.getElem_cons_succ,
      List.getElem_cons_zero, List.find?_cons]
    by_cases here : key = "Value"
    · simp [here]
    · by_cases first : key = "Description"
      · simp [first]
      · by_cases last : key = "listeners" <;> simp [here, first, last]
  others := by
    simp only [List.cons_append, List.nil_append, List.forall_mem_cons]
    refine ⟨⟨by decide, fun doc x y read => ?_⟩, ⟨by decide, fun doc x y read => ?_⟩,
      List.forall_mem_nil _⟩
    · exact Prod.ext_iff.mpr (value_of_decode_description read).2
    · obtain ⟨count, -, made⟩ := bind_eq_ok read
      cases made
      rfl

/-- The document of the value in the text of a property. -/
def valueDocument? (doc : Document) : Option Document := doc.field? "Value" 1

theorem value_of_decode {depth : Nat} {doc : Document} {p : Property}
    (decoded : decode depth doc = .ok p) :
    (valueDocument? doc = none ∧ (p.value, p.quoted) = ("", false)) ∨
      ∃ own v, valueDocument? doc = some own ∧ decodeValue (depth - 1) own = .ok v ∧
        (p.value, p.quoted) = ofContent v := by
  cases depth with
  | zero => exact absurd decoded (Record.decode_zero doc p)
  | succ depth =>
      rcases (sources_value depth).part_of_decode decoded with
        missing | ⟨own, z, w, found, read, same⟩
      · exact Or.inl missing
      · obtain ⟨v, value, made⟩ := bind_eq_ok read
        cases made
        exact Or.inr ⟨own, v, found, value, same⟩

theorem isString_iff_of_decode {depth : Nat} {doc : Document} {p : Property}
    (decoded : decode depth doc = .ok p) (s : String) :
    p.isString s = true ↔ valueDocument? doc = some (.string (.ok s)) := by
  rcases value_of_decode decoded with ⟨missing, blank⟩ | ⟨own, v, found, read, made⟩
  · obtain ⟨-, raw⟩ := Prod.mk.inj blank
    simp [isString, raw, missing]
  · rw [found]
    generalize depth - 1 = level at read
    cases readAs_of_decodeValue read with
    | string depth t =>
        obtain ⟨text, quoted⟩ := Prod.mk.inj made
        simp [isString, text, quoted]
    | _ =>
        obtain ⟨-, raw⟩ := Prod.mk.inj made
        simp [isString, raw]

/-- A property settles once it was written and read. It keeps its description and its count; it
comes back as it was if its value was a string, empty, or the compact text of a value other than
null and strings, nested no deeper than a property can hold; and what comes back once comes back
ever after. Whatever text a property is read from, it has a string as its value only where that text
has this string. Fractions in the raw text are assumed to be read back from the way they are
printed. -/
theorem reread_settles :
    (∀ p : Property, p.toJson.nesting ≤ maxDepth →
      (p.quoted = false → (readValue p.value.toList).1.Exact) →
      ∃ q, p.reread = .ok q ∧
        q.uri = p.uri ∧ q.name = p.name ∧ q.listeners = p.listeners ∧
        (q = p ↔ p.quoted = true ∨ p.value = "" ∨ ∃ v : Value,
          v.Representable ∧ v.nesting < maxDepth ∧ v ≠ .null ∧ (∀ s, v ≠ .string s) ∧
            p.value = v.compact) ∧
        q.reread = .ok q) ∧
    ∀ (depth : Nat) (doc : Document) (r : Property), decode depth doc = .ok r →
      ∀ s, r.isString s = true ↔ valueDocument? doc = some (.string (.ok s)) := by
  refine ⟨fun p fits exact => ?_, fun depth doc r decoded => isString_iff_of_decode decoded⟩
  have readable := readable_content exact fits
  have again : p.settled.reread = .ok p.settled.settled :=
    reread_eq (content_settled readable ▸ readable)
  refine ⟨p.settled, reread_eq readable, rfl, rfl, rfl, settled_eq_self_iff_compact readable, ?_⟩
  rw [again, settled_settled readable]

/-- A scale with a raw text. -/
def rawScale (text : String) : Property :=
  { uri := "Moon.Scale", value := text, quoted := false, listeners := 2 }

theorem exact_rawScale {v : Value} (legible : v.Legible) :
    (readValue (rawScale v.compact).value.toList).1.Exact := by
  rw [rawScale, legible.readValue_compact.1]
  exact legible.exact

theorem nesting_rawScale {depth : Nat} {v : Value} (readable : v.Readable depth)
    (fits : depth ≤ maxDepth) : (rawScale v.compact).toJson.nesting = max 1 v.nesting + 1 := by
  rw [nesting_toJson, content_of_compact readable fits rfl rfl]

/-- A list stays what it is, null is lost once, and a raw `true` is no string. -/
theorem reread_list_and_null :
    let list : Value := .array [.number (.float 1.5), .bool true]
    (rawScale list.compact).reread = .ok (rawScale list.compact) ∧
      (∃ q, (rawScale "null").reread = .ok q ∧ q ≠ rawScale "null" ∧ q.reread = .ok q) ∧
      ∀ s, ({ rawScale "true" with listeners := 0 } : Property).isString s = false := by
  intro list
  obtain ⟨settles, strings⟩ := reread_settles
  have whole : list.Readable 1 := by
    refine .array 0 _ fun item inside => ?_
    rcases List.mem_pair.mp inside with rfl | rfl
    · exact .number 0 _ Value.readsBack_threeHalves
    · exact .bool 0 true
  have nothing : Value.null.Readable 0 := .null 0
  refine ⟨?_, ?_, fun s => ?_⟩
  · obtain ⟨q, back, -, -, -, same, -⟩ := settles (rawScale list.compact)
      (by rw [nesting_rawScale whole (by decide)]; decide) fun _ => exact_rawScale whole.legible
    rw [back, same.mpr (Or.inr (Or.inr ⟨list, ⟨1, whole⟩, by decide, nofun, nofun, rfl⟩))]
  · obtain ⟨q, back, -, -, -, same, again⟩ := settles (rawScale Value.null.compact)
      (by rw [nesting_rawScale nothing (by decide)]; decide)
      fun _ => exact_rawScale nothing.legible
    refine ⟨q, back, fun kept => ?_, again⟩
    rcases same.mp kept with string | empty | ⟨v, ⟨depth, readable⟩, small, something, -, text⟩
    · cases string
    · exact absurd empty (by decide)
    · have within : v.Readable maxDepth := readable.of_nesting_le (Nat.le_of_lt small)
      have other := content_of_compact within (Nat.le_refl _) rfl text
      have none := content_of_compact nothing (by decide) (p := rawScale Value.null.compact) rfl rfl
      exact something (other.symm.trans none)
  · have read : decode 2 (.object (.more (.ok "Description")
        (.array (.more (.string (.ok "Moon.Scale")) .done))
        (.more (.ok "Value") (.bool true) .done))) =
          .ok { rawScale "true" with listeners := 0 } := by rfl
    have never := strings 2 _ _ read s
    rw [Bool.eq_false_iff, Ne, never]
    nofun

end StoryMarkers.Property
