import StoryMarkers.Decimal.Numeral
import StoryMarkers.Json.Fault
import StoryMarkers.Json.Value

/-!
A JSON text as it was read, before anything is expected of it.

Where the text goes wrong the document ends in a break. Whoever takes the document apart in reading
order meets the break only after everything before it, so of several faults the first one counts.
A field that nobody asked for is skipped under looser rules than a field that is read, and a break
says what each of the two readers reports.
-/

set_option autoImplicit false

namespace StoryMarkers.Json

structure Break where
  read : Malformed
  skip : Malformed
deriving DecidableEq, Repr

/-- A break that is the same for whoever meets it. -/
def Break.both (fault : Malformed) : Break := ⟨fault, fault⟩

inductive NumberText where
  | whole (negative : Bool) (size : Nat)
  | fraction (numeral : Decimal.Numeral)
deriving DecidableEq, Repr

mutual

inductive Document where
  | null
  | bool (b : Bool)
  | number (text : NumberText)
  /-- A string whose escapes may still not spell characters. -/
  | string (content : Except Malformed String)
  | array (items : Items)
  | object (entries : Entries)
  | broken (b : Break)

inductive Items where
  | done
  | cut (b : Break)
  | more (item : Document) (rest : Items)

inductive Entries where
  | done
  | cut (b : Break)
  | more (key : Except Malformed String) (value : Document) (rest : Entries)

end

mutual

/-- Passes over a document of any depth, whose strings and numbers need only be well spelled. -/
def Document.skip : Document → Except Malformed Unit
  | .array items => items.skip
  | .object entries => entries.skip
  | .broken b => .error b.skip
  | _ => .ok ()

def Items.skip : Items → Except Malformed Unit
  | .done => .ok ()
  | .cut b => .error b.skip
  | .more item rest => do
    item.skip
    rest.skip

def Entries.skip : Entries → Except Malformed Unit
  | .done => .ok ()
  | .cut b => .error b.skip
  | .more _ value rest => do
    value.skip
    rest.skip

end

/--
Whole numbers from `-2 ^ 63` to `2 ^ 64 - 1` stay whole; all others, and a zero with a minus sign,
become the nearest fraction, which must be finite.
-/
def NumberText.value : NumberText → Except Malformed Number
  | .whole false size =>
    if size < UInt64.size then .ok (.int size) else nearest ⟨false, size, 0⟩
  | .whole true size =>
    if 0 < size ∧ size ≤ 0x8000000000000000 then .ok (.int (-size)) else nearest ⟨true, size, 0⟩
  | .fraction numeral => nearest numeral
where
  nearest (numeral : Decimal.Numeral) : Except Malformed Number :=
    let x : Float := numeral.round
    if x.isFinite then .ok (.float x) else .error .numberOutOfRange

end StoryMarkers.Json
