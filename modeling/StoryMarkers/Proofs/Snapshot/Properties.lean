import StoryMarkers.Property.Wire
import StoryMarkers.Proofs.Json.Records

set_option autoImplicit false

namespace StoryMarkers.Property

open Json

/-- A property that is read back from its JSON, with so many levels of nesting allowed. -/
structure Storable (depth : Nat) (p : Property) : Prop where
  /-- The description is a record inside the record. -/
  room : 2 ≤ depth
  readable : p.content.Readable (depth - 1)
  kept : ofContent p.content = (p.value, p.quoted)

theorem content_congr {p q : Property} (value : p.value = q.value) (quoted : p.quoted = q.quoted) :
    p.content = q.content := by
  rw [content, content, value, quoted]

/-- A raw text that is the compact text of a value stands for that value. -/
theorem content_of_compact {depth : Nat} {v : Value} (readable : v.Readable depth)
    (fits : depth ≤ maxDepth) {p : Property} (raw : p.quoted = false)
    (text : p.value = v.compact) : p.content = v := by
  have back : Json.decode decodeValue v.compact = .ok v := by
    rw [readable.legible.decode_compact]
    exact (readable.mono fits).decodeValue_document
  have nonempty : v.compact ≠ "" := by
    obtain ⟨c, rest, first, -⟩ := readable.legible.readsAhead.opens readable.legible
    intro empty
    rw [Value.compact, String.ofList_eq_empty_iff] at empty
    rw [empty] at first
    cases first
  rw [content, raw, text, if_neg Bool.false_ne_true, if_neg nonempty, back]

theorem content_ofContent {depth : Nat} {v : Value} (readable : v.Readable depth)
    (fits : depth ≤ maxDepth) {p : Property} (made : ofContent v = (p.value, p.quoted)) :
    p.content = v := by
  have raw (own : ofContent v = (v.compact, false)) : p.content = v := by
    rw [own, Prod.mk.injEq] at made
    exact content_of_compact readable fits made.2.symm made.1.symm
  cases v with
  | string s =>
      simp only [ofContent, Prod.mk.injEq] at made
      rw [content, ← made.1, ← made.2, if_pos rfl]
  | null =>
      simp only [ofContent, Prod.mk.injEq] at made
      rw [content, ← made.1, ← made.2, if_neg Bool.false_ne_true, if_pos rfl]
  | bool b => exact raw rfl
  | number n => exact raw rfl
  | array items => exact raw rfl
  | object entries => exact raw rfl

/-- The description of a property as it is written. -/
def descriptionJson (p : Property) : Value :=
  .object (("Identifier", .string p.uri) :: match p.name with
    | some name => [("Name", .string name)]
    | none => [])

theorem toJson_eq (p : Property) : p.toJson = .object [
    ("Description", p.descriptionJson),
    ("Value", p.content),
    ("listeners", .number (.int p.listeners.toNat))] := rfl

theorem Storable.start {depth : Nat} {p : Property} (storable : p.Storable depth) :
    p.start.Storable depth :=
  ⟨storable.room, storable.readable, storable.kept⟩

theorem Storable.stop {depth : Nat} {p : Property} (storable : p.Storable depth) :
    p.stop.Storable depth :=
  ⟨storable.room, storable.readable, storable.kept⟩

theorem Storable.setValue {depth : Nat} {p : Property} (storable : p.Storable depth)
    (value : String) : (p.setValue value).Storable depth :=
  ⟨storable.room, .string _ value, rfl⟩

/-- A description sets the address and the name. -/
theorem value_of_decode_description {q p : Property} {depth : Nat} {doc : Document}
    (decoded : (description q).decode depth doc = .ok p) :
    1 ≤ depth ∧ p.value = q.value ∧ p.quoted = q.quoted := by
  cases depth with
  | zero => exact absurd decoded (Record.decode_zero doc p)
  | succ depth =>
      have spares : ∀ field ∈ (description q).fields,
          Record.Spares depth (fun p => (p.value, p.quoted)) field := by
        intro field inside doc x y read
        simp only [description, List.mem_cons, List.not_mem_nil, or_false] at inside
        rcases inside with rfl | rfl
        all_goals
          obtain ⟨found, -, made⟩ := bind_eq_ok read
          cases made
          rfl
      have same := Record.part_of_decode_of_spares spares decoded
      exact ⟨Nat.succ_pos depth, Prod.mk.inj same⟩

theorem storable_of_decode {depth : Nat} (fits : depth ≤ maxDepth) {doc : Document}
    {p : Property} (exact : doc.Exact) (decoded : decode depth doc = .ok p) :
    p.Storable depth := by
  cases depth with
  | zero => exact absurd decoded (Record.decode_zero doc p)
  | succ depth =>
      have keeps : record.Keeps depth fun names p =>
          p.content.Readable depth ∧ ofContent p.content = (p.value, p.quoted) ∧
            ("Description" ∈ names → 1 ≤ depth) := by
        rintro field inside seen x y doc exact ⟨readable, kept, room⟩ read
        simp only [record, List.mem_cons, List.not_mem_nil, or_false] at inside
        rcases inside with rfl | rfl | rfl
        · obtain ⟨room, value, quoted⟩ := value_of_decode_description read
          rw [content_congr value quoted, value, quoted]
          exact ⟨readable, kept, fun _ => room⟩
        · obtain ⟨v, decoded, made⟩ := bind_eq_ok read
          cases made
          have raw := readable_of_decodeValue exact decoded
          have same {q : Property} (made : ofContent v = (q.value, q.quoted)) : q.content = v :=
            content_ofContent raw (Nat.le_of_succ_le fits) made
          refine ⟨?_, congrArg ofContent (same rfl), fun named => room ?_⟩
          · rw [same rfl]
            exact raw
          · simpa using named
        · obtain ⟨n, -, made⟩ := bind_eq_ok read
          cases made
          refine ⟨readable, kept, fun named => room ?_⟩
          simpa using named
      have start : record.start.content.Readable depth ∧
          ofContent record.start.content = (record.start.value, record.start.quoted) ∧
            ("Description" ∈ ([] : List String) → 1 ≤ depth) :=
        ⟨.null depth, rfl, nofun⟩
      obtain ⟨names, ⟨readable, kept, room⟩, required⟩ :=
        Record.holds_of_decode start keeps exact decoded
      have described : "Description" ∈ names := required _ List.mem_cons_self rfl
      exact ⟨Nat.succ_le_succ (room described), readable, kept⟩

theorem legible_descriptionJson (p : Property) : p.descriptionJson.Legible := by
  rw [descriptionJson]
  cases p.name <;> simp

/-- A count of 32 bits is read back. -/
theorem readsBack_count (n : UInt32) : (Value.number (.int n.toNat)).ReadsBack := by
  have small : n.toNat < UInt32.size := n.toNat_lt_size
  simp only [UInt32.size] at small
  exact Value.readsBack_int (by omega) (by simp only [UInt64.size]; omega)

theorem Storable.legible {depth : Nat} {p : Property} (storable : p.Storable depth) :
    p.toJson.Legible := by
  rw [toJson_eq]
  simp [legible_descriptionJson, storable.readable.legible, readsBack_count]

/-- The description is read into a property that has no name yet. -/
theorem decode_description {q : Property} (unnamed : q.name = none) (p : Property) (depth : Nat) :
    (description q).decode (depth + 1) p.descriptionJson.document =
      .ok { q with uri := p.uri, name := p.name } := by
  obtain ⟨uri, name, value, quoted, listeners⟩ := p
  obtain ⟨uri', name', value', quoted', listeners'⟩ := q
  cases unnamed
  cases name <;> rfl

theorem decodeWord_count (depth : Nat) (n : UInt32) :
    decodeWord depth (Value.number (.int n.toNat)).document = .ok n := by
  obtain ⟨text, left, -, -, document, value⟩ := (readsBack_count n).document
  have small : (n.toNat : Int) < UInt32.size := Int.ofNat_lt.mpr n.toNat_lt_size
  simp only [document, decodeWord, value, ofMalformed, bind, Except.bind]
  rw [if_pos ⟨Int.natCast_nonneg _, small⟩, Int.toNat_natCast, UInt32.ofNat_toNat]

theorem Storable.decode_toJson {depth : Nat} {p : Property} (storable : p.Storable depth) :
    decode depth p.toJson.document = .ok p := by
  obtain ⟨room, readable, kept⟩ := storable
  obtain ⟨depth, rfl⟩ := Nat.exists_eq_add_of_le' room
  have content : decodeValue (depth + 1) p.content.document = .ok p.content :=
    readable.decodeValue_document
  have described := decode_description (q := record.start) rfl p depth
  have read : record.readEntries (depth + 1) (Value.entriesDocument [
      ("Description", p.descriptionJson),
      ("Value", p.content),
      ("listeners", .number (.int p.listeners.toNat))]) record.start [] =
        .ok (p, ["listeners", "Value", "Description"]) := by
    refine Record.readEntries_more rfl (by simp) described ?_
    refine Record.readEntries_more (y := { p with listeners := 0 }) rfl (by decide) ?_ ?_
    · simp [content, kept, bind, Except.bind, record]
    refine Record.readEntries_more (y := p) rfl (by decide) ?_ ?_
    · simp [decodeWord_count, bind, Except.bind]
    rfl
  exact Record.decode_object read (by simp [record])

end StoryMarkers.Property
