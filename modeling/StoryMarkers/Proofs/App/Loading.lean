import StoryMarkers.Proofs.App.StatusLine
import StoryMarkers.Proofs.Json.Reading
import StoryMarkers.Proofs.Subscription.Exchange

set_option autoImplicit false

namespace StoryMarkers

namespace App

/-- What is done with the window: something happens to it, or something in it is clicked that sets
off what is given, wherever it stands. -/
inductive Deed where
  | event (event : Event)
  | click (files : Files) (action : Option Action)

def undergo (app : App) : Deed → App
  | .event event => app.step event
  | .click files action => app.respond files (.up (.bar action))

def undergoAll (app : App) (deeds : List Deed) : App := deeds.foldl undergo app

def Deed.Blind (before after : Option String) : Deed → Prop
  | .event happening => happening.Blind before after
  | .click _ _ => True

end App

namespace Alike

variable {before after : Option String} {app other : App}

theorem undergo (alike : Alike before after app other) {deed : App.Deed}
    (blind : deed.Blind before after) :
    Alike before after (app.undergo deed) (other.undergo deed) := by
  cases deed with
  | event event => exact alike.step blind
  | click files action =>
      have left := alike.leaveEdit action
      cases action with
      | none => exact left
      | some action => exact left.act files action

theorem undergoAll (alike : Alike before after app other) {deeds : List App.Deed}
    (blind : ∀ deed ∈ deeds, deed.Blind before after) :
    Alike before after (app.undergoAll deeds) (other.undergoAll deeds) := by
  induction deeds generalizing app other with
  | nil => exact alike
  | cons deed deeds ih =>
      obtain ⟨now, later⟩ := List.forall_mem_cons.mp blind
      exact ih (alike.undergo now) later

end Alike

namespace App

variable {files : Files} {path : String}

theorem load_of_error {e : SnapshotError} (failed : Snapshot.load files path = .error e)
    (app : App) : app.load files path = app.withStatus (some e.message) := by
  rw [load, failed]
  rfl

/-- The counts that the first load has taken over are the ones that the second takes over. -/
theorem load_load {snapshot : Snapshot} (read : Snapshot.load files path = .ok snapshot)
    (well : snapshot.tree.WellAddressed) (app : App) :
    (app.load files path).load files path = app.load files path := by
  have again := Service.carry_carry well app.service.snapshot.tree.allProperties
  simp only [load, read, take, Service.replaceTree, Service.setFetched, again]

/-- Whatever state the window is in, a load that fails changes nothing but its status line. Whatever
is done with the window later leads to the state that it would have led to without that load, up to
the status line, and to that very state once another load has been tried; only what lays out all of
the window needs a status line as high as before, and a press by a text one that reads otherwise. A
load that succeeds with a tree in which every address says where its property stands can be
repeated, and changes nothing then. -/
theorem load_is_atomic_and_idempotent (app : App) (files : Files) (path : String) :
    (∀ e, Snapshot.load files path = .error e →
      let failed := app.load files path
      failed = app.withStatus (some e.message) ∧
      ∀ deeds : List Deed, (∀ deed ∈ deeds, deed.Blind app.view.status (some e.message)) →
        failed.undergoAll deeds = (app.undergoAll deeds).withStatus (some e.message) ∨
          failed.undergoAll deeds = app.undergoAll deeds) ∧
    (∀ snapshot, Snapshot.load files path = .ok snapshot → snapshot.tree.WellAddressed →
      (app.load files path).load files path = app.load files path) := by
  refine ⟨?_, fun snapshot read well => load_load read well app⟩
  intro e unread failed
  have told : failed = app.withStatus (some e.message) := load_of_error unread app
  refine ⟨told, ?_⟩
  intro deeds blind
  have alike : Alike app.view.status (some e.message) app failed := told ▸ .apart app
  have later := alike.undergoAll blind
  generalize app.undergoAll deeds = reached at later ⊢
  generalize failed.undergoAll deeds = other at later ⊢
  cases later with
  | same app => exact .inr rfl
  | apart app => exact .inl rfl

/-- A tree with the moon in it. -/
def lunar (listeners : UInt32) : Tree where
  subowners := [
    { identifier := "Moon"
      properties := [{ uri := "Moon.Size", value := "3", quoted := false, listeners }] }]

/-- What the file of the moon says. -/
def lunarJson : Json.Value :=
  .object [
    ("propertyTree", .object [
      ("subowners", .array [.object [
        ("identifier", .string "Moon"),
        ("properties", .array [.object [
          ("Description", .object [("Identifier", .string "Moon.Size")]),
          ("Value", .number (.int 3))]])]])])]

theorem ofText_lunarJson : Snapshot.ofText lunarJson.compact = .ok { tree := lunar 0 } := by
  have legible : lunarJson.Legible := by
    simp [lunarJson, Json.Value.readsBack_int, UInt64.size]
  rw [Snapshot.ofText, legible.decode_compact]
  with_unfolding_all rfl

theorem read_moon (text : String) :
    (Files.ofList [("moon.json", text.toUTF8)]).read "moon.json" = .ok text := by
  have valid : String.fromUTF8? text.toUTF8 = some text := dif_pos text.isValidUTF8
  change Files.ofBytes "moon.json" text.toUTF8 = _
  rw [Files.ofBytes, valid]

/-- There is no file of Mars. The one of the moon is loaded while two listen. -/
theorem moon_is_loaded_again :
    let files := Files.ofList [("moon.json", lunarJson.compact.toUTF8)]
    let app := start {} { tree := lunar 2 } (some "moon.json")
    let failed := app.load files "mars.json"
    let deeds : List Deed :=
      [.event .refresh, .event (.redraw files), .click files (some .fit), .event .close]
    let message := some "failed to read mars.json: No such file or directory (os error 2)"
    failed = app.withStatus message ∧
      (failed.undergoAll deeds = (app.undergoAll deeds).withStatus message ∨
        failed.undergoAll deeds = app.undergoAll deeds) ∧
      (app.load files "moon.json").service.snapshot.tree = lunar 2 ∧
      (app.load files "moon.json").load files "moon.json" = app.load files "moon.json" := by
  intro files app failed deeds message
  have missing : Snapshot.load files "mars.json" = .error (.unreadable ⟨"mars.json", .missing⟩) :=
    rfl
  have read : Snapshot.load files "moon.json" = .ok { tree := lunar 0 } := by
    rw [Snapshot.load, read_moon]
    exact ofText_lunarJson
  obtain ⟨told, spared⟩ := (load_is_atomic_and_idempotent app files "mars.json").1 _ missing
  have level : Panel.heightWith none = Panel.heightWith message := by decide +kernel
  have blind : ∀ deed ∈ deeds, deed.Blind none message := by
    simp [deeds, Deed.Blind, Event.Blind, level]
  refine ⟨told, spared deeds blind, ?_, ?_⟩
  · rw [load, read]
    rfl
  · have well : (lunar 0).WellAddressed := by decide
    exact (load_is_atomic_and_idempotent app files "moon.json").2 _ read well

end App

end StoryMarkers
