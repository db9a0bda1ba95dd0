import StoryMarkers.Proofs.Json.FreeValues
import StoryMarkers.Proofs.Json.Steps

set_option autoImplicit false

namespace StoryMarkers.Json

mutual

/-- What is read from the text of a value. -/
def Value.document : Value → Document
  | .null => .null
  | .bool b => .bool b
  | .number n => (readValue n.text).1
  | .string s => .string (.ok s)
  | .array items => .array (Value.itemsDocument items)
  | .object entries => .object (Value.entriesDocument entries)

def Value.itemsDocument : List Value → Items
  | [] => .done
  | item :: rest => .more item.document (Value.itemsDocument rest)

def Value.entriesDocument : List (String × Value) → Entries
  | [] => .done
  | (key, value) :: rest => .more (.ok key) value.document (Value.entriesDocument rest)

end

namespace Value

/-- A value that is read back, as a free value, from its own text. -/
def ReadsBack (v : Value) : Prop := Json.decode decodeValue v.compact = .ok v

/-- All numbers of the value are read back. -/
inductive Legible : Value → Prop
  | null : Legible .null
  | bool (b : Bool) : Legible (.bool b)
  | number (n : Number) (back : ReadsBack (.number n)) : Legible (.number n)
  | string (s : String) : Legible (.string s)
  | array (items : List Value) (all : ∀ item ∈ items, Legible item) : Legible (.array items)
  | object (entries : List (String × Value)) (all : ∀ entry ∈ entries, Legible entry.2) :
      Legible (.object entries)

@[simp] theorem legible_null : Value.null.Legible := .null

@[simp] theorem legible_string (s : String) : (Value.string s).Legible := .string s

@[simp] theorem legible_bool (b : Bool) : (Value.bool b).Legible := .bool b

@[simp] theorem legible_number (n : Number) :
    (Value.number n).Legible ↔ (Value.number n).ReadsBack :=
  ⟨fun | .number _ back => back, .number n⟩

@[simp] theorem legible_array (items : List Value) :
    (Value.array items).Legible ↔ ∀ item ∈ items, item.Legible :=
  ⟨fun | .array _ all => all, .array items⟩

@[simp] theorem legible_object (entries : List (String × Value)) :
    (Value.object entries).Legible ↔ ∀ entry ∈ entries, entry.2.Legible :=
  ⟨fun | .object _ all => all, .object entries⟩

/-- The text of the value is read as the document of the value, whatever follows. -/
def ReadsAhead (v : Value) : Prop :=
  ∀ rest, Ends rest →
    settling (readValue (v.text ++ rest)) = (v.document, rest.dropWhile isBlank)

end Value

theorem decode_eq_ok {α : Type} {decoder : Decoder α} {text : String} {x : α} :
    decode decoder text = .ok x ↔
      decoder maxDepth (readValue text.toList).1 = .ok x ∧
        (readValue text.toList).2.val.all isBlank = true := by
  rw [decode, decodeChars]
  cases decoded : decoder maxDepth (readValue text.toList).1 with
  | error fault => simp [bind, Except.bind, decoded]
  | ok y => by_cases blank : (readValue text.toList).2.val.all isBlank = true <;>
      simp [bind, Except.bind, decoded, blank]

theorem dropWhile_of_all {left : List Char} (blank : left.all isBlank = true) (rest : List Char) :
    (left ++ rest).dropWhile isBlank = rest.dropWhile isBlank :=
  List.dropWhile_append_of_pos (List.all_eq_true.mp blank)

namespace Value

theorem readsAhead_of_leaving {v : Value}
    (read : ∀ rest, Ends rest → leaving (readValue (v.text ++ rest)) = (v.document, rest)) :
    v.ReadsAhead := by
  intro rest ends
  exact settling_of_leaving (read rest ends)

theorem readsAhead_null : ReadsAhead .null := by
  refine readsAhead_of_leaving fun rest _ => ?_
  have first : (Value.null.text ++ rest).dropWhile isBlank = 'n' :: ("ull".toList ++ rest) := rfl
  rw [readValue_eq first]
  exact ofWord_of_read (readWord_append _ rest)

theorem readsAhead_bool (b : Bool) : ReadsAhead (.bool b) := by
  refine readsAhead_of_leaving fun rest _ => ?_
  cases b with
  | false =>
      have first : ((Value.bool false).text ++ rest).dropWhile isBlank =
        'f' :: ("alse".toList ++ rest) := rfl
      rw [readValue_eq first]
      exact ofWord_of_read (readWord_append _ rest)
  | true =>
      have first : ((Value.bool true).text ++ rest).dropWhile isBlank =
        't' :: ("rue".toList ++ rest) := rfl
      rw [readValue_eq first]
      exact ofWord_of_read (readWord_append _ rest)

/-- The text of a number that is read back holds one number, with nothing but blanks after it. -/
theorem ReadsBack.document {n : Number} (back : ReadsBack (.number n)) :
    ∃ text left, leaving (readValue n.text) = (.number text, left) ∧ left.all isBlank = true ∧
      (Value.number n).document = .number text ∧ text.value = .ok n := by
  rw [ReadsBack, decode_eq_ok, compact, String.toList_ofList, Value.text] at back
  obtain ⟨decoded, blank⟩ := back
  generalize document : (readValue n.text).1 = doc at decoded
  cases readAs_of_decodeValue decoded with
  | number depth text n value => exact ⟨text, _, Prod.ext document rfl, blank, document, value⟩

theorem readsAhead_number {n : Number} (back : ReadsBack (.number n)) :
    ReadsAhead (.number n) := by
  intro rest ends
  obtain ⟨text, left, read, blank, document, -⟩ := back.document
  have further := readValue_number_append ends read
  rw [document, ← dropWhile_of_all blank rest]
  exact settling_of_leaving further

theorem readsAhead_string (s : String) : ReadsAhead (.string s) := by
  refine readsAhead_of_leaving fun rest _ => ?_
  have first : ((Value.string s).text ++ rest).dropWhile isBlank =
      '"' :: (s.toList.flatMap escape ++ '"' :: rest) := by
    simp [text, stringText, isBlank]
  rw [readValue_eq first]
  exact ofStep_of_read (readQuoted_text s rest)

theorem readsBack_of_document {n : Number} {text : NumberText} {left : List Char}
    (read : leaving (readValue n.text) = (.number text, left)) (value : text.value = .ok n)
    (blank : left.all isBlank = true) : ReadsBack (.number n) := by
  rw [leaving, Prod.mk.injEq] at read
  rw [ReadsBack, decode_eq_ok, compact, String.toList_ofList, Value.text, read.1, read.2]
  refine ⟨?_, blank⟩
  rw [decodeValue_number, value]
  rfl

/-- Whole numbers of 64 bits, with or without a sign, are read back. -/
theorem readsBack_int {n : Int} (low : -0x8000000000000000 ≤ n) (high : n < UInt64.size) :
    ReadsBack (.number (.int n)) := by
  by_cases positive : 0 ≤ n
  · obtain ⟨k, rfl⟩ := Int.eq_ofNat_of_zero_le positive
    have spelled : (Number.int k).text = Nat.toDigits 10 k := by
      simp [Number.text, Int.toString_eq_repr, Int.repr_eq_if, Nat.repr_eq_ofList_toDigits]
    have fits : k < UInt64.size := by omega
    refine readsBack_of_document (spelled ▸ readValue_toDigits k) ?_ rfl
    simp [NumberText.value, fits]
  · have spelled : (Number.int n).text = '-' :: Nat.toDigits 10 (-n).toNat := by
      simp [Number.text, Int.toString_eq_repr, Int.repr_eq_if, Nat.repr_eq_ofList_toDigits,
        positive]
    have fits : 0 < (-n).toNat ∧ (-n).toNat ≤ 0x8000000000000000 := by omega
    refine readsBack_of_document (spelled ▸ readValue_minus_toDigits (-n).toNat) ?_ rfl
    have back : -((-n).toNat : Int) = n := by omega
    rw [NumberText.value, if_pos fits, back]

/-- Three halves are written as `1.5` and read from that. -/
theorem readsBack_threeHalves : ReadsBack (.number (.float 1.5)) := by
  have spelled : (Number.float 1.5).text = "1.5".toList := by decide +kernel
  have first : "1.5".toList.dropWhile isBlank = '1' :: ".5".toList := by decide +kernel
  have digits : (readNumber false "1.5".toList).map leaving =
      .ok (.fraction ⟨false, 15, -1⟩, []) := by decide +kernel
  have read : leaving (readValue (Number.float 1.5).text) =
      (.number (.fraction ⟨false, 15, -1⟩), []) := by
    rw [spelled, readValue_digit first rfl]
    exact ofStep_of_read digits
  have value : NumberText.value (.fraction ⟨false, 15, -1⟩) = .ok (.float 1.5) := by
    have round : (Decimal.Numeral.round ⟨false, 15, -1⟩ : Float) = 1.5 := rfl
    have finite : (1.5 : Float).isFinite = true := by decide +kernel
    rw [NumberText.value, NumberText.value.nearest, round, if_pos finite]
  exact readsBack_of_document read value rfl

/-! Arrays and objects, whose parts are read ahead of what follows them. -/

/-- Whether a text starts with something other than the end of an array. -/
def Opens (text : List Char) : Prop :=
  ∃ c rest, text.dropWhile isBlank = c :: rest ∧ c ≠ ']'

theorem Opens.append {text : List Char} (opens : Opens text) (rest : List Char) :
    Opens (text ++ rest) := by
  obtain ⟨c, after, first, other⟩ := opens
  refine ⟨c, after ++ rest, ?_, other⟩
  simp [List.dropWhile_append, first]

theorem Legible.unbroken {v : Value} (legible : v.Legible) (b : Break) :
    v.document ≠ .broken b := by
  cases legible with
  | number n back =>
      obtain ⟨text, left, -, -, document, -⟩ := back.document
      rw [document]
      exact Document.noConfusion
  | _ => exact Document.noConfusion

theorem ReadsAhead.opens {v : Value} (ahead : v.ReadsAhead) (legible : v.Legible) :
    Opens v.text := by
  have document : (leaving (readValue (v.text ++ []))).1 = v.document :=
    congrArg Prod.fst (ahead [] ends_nil)
  have kept : (v.text ++ []).dropWhile isBlank = v.text.dropWhile isBlank := by
    rw [List.append_nil]
  cases first : v.text.dropWhile isBlank with
  | nil =>
      rw [readValue_blank (kept.trans first)] at document
      exact absurd document.symm (legible.unbroken _)
  | cons c rest =>
      refine ⟨c, rest, first, ?_⟩
      rintro rfl
      rw [readValue_eq (kept.trans first)] at document
      exact absurd document.symm (legible.unbroken _)

theorem opens_itemsText {item : Value} (opens : Opens item.text) (items : List Value)
    (rest : List Char) : Opens (itemsText (item :: items) ++ rest) := by
  cases items with
  | nil => simpa [itemsText] using opens.append (']' :: rest)
  | cons second items => simpa [itemsText] using opens.append _

theorem readItem_itemsText {item : Value} {items : List Value}
    (ahead : ∀ v ∈ item :: items, v.ReadsAhead) (opens : ∀ v ∈ item :: items, Opens v.text)
    (rest : List Char) :
    leaving (readItem ((itemsText (item :: items) ++ rest).dropWhile isBlank)) =
      (itemsDocument (item :: items), rest) := by
  induction items generalizing item with
  | nil =>
      have value := ahead item List.mem_cons_self (']' :: rest) (ends_cons rfl rest)
      rw [← settling_dropWhile] at value
      have spelled : itemsText [item] ++ rest = item.text ++ ']' :: rest := by
        simp [itemsText]
      rw [spelled, readItem_last value]
      rfl
  | cons second items ih =>
      have value := ahead item List.mem_cons_self
        (',' :: (itemsText (second :: items) ++ rest)) (ends_cons rfl _)
      rw [← settling_dropWhile] at value
      have spelled : itemsText (item :: second :: items) ++ rest =
          item.text ++ ',' :: (itemsText (second :: items) ++ rest) := by
        simp [itemsText]
      obtain ⟨c, next, first, other⟩ := opens_itemsText (opens second (by simp)) items rest
      have further := ih (fun v inside => ahead v (List.mem_cons_of_mem _ inside))
        fun v inside => opens v (List.mem_cons_of_mem _ inside)
      rw [first, leaving, Prod.mk.injEq] at further
      rw [spelled, readItem_more value first other, further.1, further.2]
      rfl

theorem readsAhead_array {items : List Value} (ahead : ∀ item ∈ items, item.ReadsAhead)
    (opens : ∀ item ∈ items, Opens item.text) : ReadsAhead (.array items) := by
  refine readsAhead_of_leaving fun rest _ => ?_
  have bracket : ((Value.array items).text ++ rest).dropWhile isBlank =
    '[' :: (itemsText items ++ rest) := rfl
  rw [readValue_eq bracket]
  cases items with
  | nil =>
      have bracket : (itemsText [] ++ rest).dropWhile isBlank = ']' :: rest := rfl
      have done := readItems_done bracket
      rw [leaving, Prod.mk.injEq] at done
      rw [if_pos rfl, done.1, done.2]
      rfl
  | cons item items =>
      obtain ⟨c, next, first, other⟩ := opens_itemsText (opens item (by simp)) items rest
      have read := readItem_itemsText ahead opens rest
      rw [first, ← readItems_more first other, leaving, Prod.mk.injEq] at read
      rw [if_pos rfl, read.1, read.2]
      rfl

/-- After the quote that opens the key of an entry. -/
theorem readEntry_entriesText {entry : String × Value} {entries : List (String × Value)}
    (ahead : ∀ e ∈ entry :: entries, e.2.ReadsAhead) (rest : List Char) :
    ∃ text, entriesText (entry :: entries) ++ rest = '"' :: text ∧
      leaving (readEntry text) = (entriesDocument (entry :: entries), rest) := by
  induction entries generalizing entry with
  | nil =>
      obtain ⟨key, v⟩ := entry
      have quoted := readQuoted_text key (':' :: (v.text ++ '}' :: rest))
      have value := ahead (key, v) List.mem_cons_self ('}' :: rest) (ends_cons rfl rest)
      refine ⟨_, ?_, (readEntry_eq quoted value).1 rfl⟩
      simp [entriesText, stringText]
  | cons second entries ih =>
      obtain ⟨key, v⟩ := entry
      obtain ⟨next, spelled, further⟩ := ih fun e inside => ahead e (List.mem_cons_of_mem _ inside)
      have quoted := readQuoted_text key (':' :: (v.text ++ ',' :: '"' :: next))
      have value := ahead (key, v) List.mem_cons_self (',' :: '"' :: next) (ends_cons rfl _)
      rw [leaving, Prod.mk.injEq] at further
      refine ⟨_, ?_, ((readEntry_eq quoted value).2 rfl next rfl).trans ?_⟩
      · simp [entriesText, stringText, ← spelled]
      · rw [further.1, further.2]
        rfl

theorem readsAhead_object {entries : List (String × Value)}
    (ahead : ∀ entry ∈ entries, entry.2.ReadsAhead) : ReadsAhead (.object entries) := by
  refine readsAhead_of_leaving fun rest _ => ?_
  have brace : ((Value.object entries).text ++ rest).dropWhile isBlank =
    '{' :: (entriesText entries ++ rest) := rfl
  rw [readValue_eq brace, if_neg (by decide), if_pos rfl]
  cases entries with
  | nil =>
      have brace : (entriesText [] ++ rest).dropWhile isBlank = '}' :: rest := rfl
      have done := readEntries_done brace
      rw [leaving, Prod.mk.injEq] at done
      rw [done.1, done.2]
      rfl
  | cons entry entries =>
      obtain ⟨next, spelled, read⟩ := readEntry_entriesText ahead rest
      have quote : (entriesText (entry :: entries) ++ rest).dropWhile isBlank = '"' :: next := by
        rw [spelled]
        rfl
      rw [← readEntries_more quote, leaving, Prod.mk.injEq] at read
      rw [read.1, read.2]
      rfl

/-- Whatever follows the text of a value, the text is read as its document. -/
theorem Legible.readsAhead {v : Value} (legible : v.Legible) : v.ReadsAhead := by
  induction legible with
  | null => exact readsAhead_null
  | bool b => exact readsAhead_bool b
  | number n back => exact readsAhead_number back
  | string s => exact readsAhead_string s
  | array items all ih =>
      exact readsAhead_array ih fun item inside => (ih item inside).opens (all item inside)
  | object entries all ih => exact readsAhead_object ih

theorem Legible.readValue_compact {v : Value} (legible : v.Legible) :
    (readValue v.compact.toList).1 = v.document ∧
      (readValue v.compact.toList).2.val.all isBlank = true := by
  have read := legible.readsAhead [] ends_nil
  rw [List.append_nil, settling, Prod.mk.injEq] at read
  rw [compact, String.toList_ofList]
  exact ⟨read.1, List.all_eq_true.mpr (List.dropWhile_eq_nil_iff.mp read.2)⟩

/-- A decoder that is given the compact text of a value sees the document of the value. -/
theorem Legible.decode_compact {α : Type} {v : Value} (legible : v.Legible)
    (decoder : Decoder α) : decode decoder v.compact = decoder maxDepth v.document := by
  obtain ⟨document, blank⟩ := legible.readValue_compact
  rw [decode, decodeChars]
  simp only [document, blank, if_true]
  cases decoder maxDepth v.document <;> rfl

end Value

end StoryMarkers.Json
