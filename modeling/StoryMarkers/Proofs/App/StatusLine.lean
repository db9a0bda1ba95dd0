import StoryMarkers.Proofs.App.Selection

/-!
The status line decides nothing. Whatever happens to two states of the window that differ in it
alone leaves them so, or makes them equal once a load has put a status of its own into both. Of the
whole window the status line shifts what stands below the bar, as far as it raises the bar.
-/

set_option autoImplicit false

namespace StoryMarkers

namespace View

/-- The same view with another status line. -/
def withStatus (view : View) (status : Option String) : View := { view with status }

variable (view : View) (status : Option String)

@[simp] theorem edit?_withStatus (dimension : Dimension) :
    (view.withStatus status).edit? dimension = view.edit? dimension := rfl

theorem fieldText_withStatus (dimension : Dimension) :
    (view.withStatus status).fieldText dimension = view.fieldText dimension := by
  cases dimension <;> rfl

/-- The number of a dimension is put within its bounds. -/
def bounded (view : View) (dimension : Dimension) : View :=
  let limited := SizeField.limit (view.get dimension)
  { view.set dimension limited with
    edit := if limited == view.get dimension then view.edit
      else view.edit.map fun edit => { edit with text := none } }

theorem bounded_withStatus (dimension : Dimension) :
    (view.withStatus status).bounded dimension = (view.bounded dimension).withStatus status := by
  cases dimension <;> rfl

theorem showField_eq (dimension : Dimension) :
    view.showField dimension =
      match (view.bounded dimension).edit? dimension with
      | some edit =>
        { view.bounded dimension with
          edit := some { edit with text := some ((view.bounded dimension).fieldText dimension) } }
      | none => view.bounded dimension := rfl

theorem showField_withStatus (dimension : Dimension) :
    (view.withStatus status).showField dimension = (view.showField dimension).withStatus status := by
  rw [showField_eq, showField_eq, bounded_withStatus, edit?_withStatus, fieldText_withStatus]
  cases (view.bounded dimension).edit? dimension <;> rfl

theorem finishEdit_withStatus :
    (view.withStatus status).finishEdit = view.finishEdit.withStatus status := by
  simp only [finishEdit, withStatus]
  split
  · rename_i edit _
    obtain ⟨dimension, text⟩ := edit
    cases dimension <;> rfl
  · rfl

end View

namespace App

/-- The same state with another status line. -/
def withStatus (app : App) (status : Option String) : App :=
  { app with view := app.view.withStatus status }

variable (app : App) (status : Option String)

@[simp] theorem current_withStatus : (app.withStatus status).current = app.current := rfl

@[simp] theorem path_withStatus : (app.withStatus status).path = app.path := rfl

@[simp] theorem view_withStatus : (app.withStatus status).view = app.view.withStatus status := rfl

/-! Nothing but a load touches the status line. -/

@[simp] theorem refresh_withStatus :
    (app.withStatus status).refresh = app.refresh.withStatus status := rfl

@[simp] theorem syncViewport_withStatus :
    (app.withStatus status).syncViewport = app.syncViewport.withStatus status := rfl

@[simp] theorem endEdit_withStatus :
    (app.withStatus status).endEdit = app.endEdit.withStatus status := rfl

@[simp] theorem close_withStatus :
    (app.withStatus status).close = app.close.withStatus status := rfl

@[simp] theorem turn_withStatus :
    (app.withStatus status).turn = app.turn.withStatus status := rfl

@[simp] theorem fitIfRequested_withStatus (rect : Rect Float32) :
    (app.withStatus status).fitIfRequested rect = (app.fitIfRequested rect).withStatus status := by
  have wanted : (app.view.withStatus status).fitRequested = app.view.fitRequested := rfl
  simp only [fitIfRequested, view_withStatus, wanted]
  split <;> rfl

@[simp] theorem moveCanvas_withStatus (rect : Rect Float32) (pointer : Pointer) :
    (app.withStatus status).moveCanvas rect pointer =
      (app.moveCanvas rect pointer).withStatus status := rfl

@[simp] theorem point_withStatus (rect : Rect Float32) (pointer : Pointer) :
    (app.withStatus status).point rect pointer = (app.point rect pointer).withStatus status := by
  rw [point, point]
  cases pointer.position <;> rfl

@[simp] theorem canvasFrame_withStatus (rect : Rect Float32) (pointer : Pointer) :
    ((app.withStatus status).canvasFrame rect pointer).1 =
      (app.canvasFrame rect pointer).1.withStatus status := by
  simp [canvasFrame]

@[simp] theorem showSize_withStatus :
    (app.withStatus status).showSize = app.showSize.withStatus status := by
  have same : (app.view.withStatus status).unfolded = app.view.unfolded := rfl
  simp only [showSize, view_withStatus, same, View.showField_withStatus]
  split <;> rfl

@[simp] theorem leaveEdit_withStatus (action : Option Action) :
    (app.withStatus status).leaveEdit action = (app.leaveEdit action).withStatus status := by
  have same : (app.view.withStatus status).edit = app.view.edit := rfl
  simp only [leaveEdit, view_withStatus, same, View.finishEdit_withStatus]
  split
  · split <;> rfl
  · rfl

/-- A load puts its own status in the place of any other. -/
theorem take_withStatus (path : String) (snapshot : Except SnapshotError Snapshot) :
    (app.withStatus status).take path snapshot = app.take path snapshot := by
  cases snapshot <;> rfl

theorem load_withStatus (files : Files) (path : String) :
    (app.withStatus status).load files path = app.load files path :=
  app.take_withStatus status path _

end App

namespace Panel

/-- How high the bar is with a status line in it. -/
def heightWith (status : Option String) : Nat :=
  let lines := (status.map fun status => (Text.lines status).length).getD 0
  max Layout.headingHeight (lines * Layout.lineHeight) + 2 * Layout.inset

theorem barHeight_eq (app : App) : barHeight app = heightWith app.view.status := rfl

/-- A text stands in the bar where it would stand without the status line, unless it is the status
line. -/
theorem filter_bar_withStatus {app : App} {status : Option String} {text : String}
    (unread : status ≠ some text) :
    (bar (app.withStatus status)).filter (·.text = text) =
      (bar (app.withStatus none)).filter (·.text = text) := by
  cases status with
  | none => rfl
  | some status =>
      have other : status ≠ text := by
        rintro rfl
        exact unread rfl
      have last : bar (app.withStatus (some status)) =
          bar (app.withStatus none) ++ [label status] := by
        change _ = (_ ++ []) ++ _
        rw [List.append_nil]
        rfl
      rw [last, List.filter_append]
      simp [label, other]

end Panel

/-- Two states of the window that are the same, or differ in the status line alone, which is a given
one in each of them. -/
inductive Alike (before after : Option String) : App → App → Prop where
  | same (app : App) : Alike before after app app
  | apart (app : App) : Alike before after (app.withStatus before) (app.withStatus after)

namespace Alike

variable {before after : Option String} {app other : App}

/-- What neither reads nor writes the status line keeps states alike. -/
theorem map {f : App → App}
    (spares : ∀ app status, f (app.withStatus status) = (f app).withStatus status)
    (alike : Alike before after app other) : Alike before after (f app) (f other) := by
  cases alike with
  | same app => exact .same (f app)
  | apart app =>
      rw [spares, spares]
      exact .apart (f app)

theorem leaveEdit (alike : Alike before after app other) (action : Option Action) :
    Alike before after (app.leaveEdit action) (other.leaveEdit action) :=
  alike.map (f := fun app => app.leaveEdit action)
    fun app status => app.leaveEdit_withStatus status action

theorem fitIfRequested (alike : Alike before after app other) (rect : Rect Float32) :
    Alike before after (app.fitIfRequested rect) (other.fitIfRequested rect) :=
  alike.map (f := fun app => app.fitIfRequested rect)
    fun app status => app.fitIfRequested_withStatus status rect

theorem point (alike : Alike before after app other) (rect : Rect Float32) (pointer : Pointer) :
    Alike before after (app.point rect pointer) (other.point rect pointer) :=
  alike.map (f := fun app => app.point rect pointer)
    fun app status => app.point_withStatus status rect pointer

theorem refreshed (alike : Alike before after app other) :
    Alike before after app.refreshed other.refreshed :=
  alike.map fun app status => by simp [App.refreshed]

theorem act (alike : Alike before after app other) (files : Files) (action : Action) :
    Alike before after (app.act files action) (other.act files action) := by
  cases action with
  | reload =>
      cases alike with
      | same app => exact .same _
      | apart app =>
          -- The two stay apart only if there is no snapshot to load again.
          cases known : app.path with
          | none =>
              simp only [App.act, App.path_withStatus, known]
              exact .apart app
          | some path =>
              simp only [App.act, App.path_withStatus, known, App.load_withStatus]
              exact .same _
  | fold => exact alike.map (f := fun app => app.turn.showSize) fun app status => by simp
  | type dimension =>
      refine alike.map (f := fun app => app.act files (.type dimension)) fun app status => ?_
      simp only [App.act, App.view_withStatus, View.edit?_withStatus]
      cases app.view.edit? dimension <;> rfl
  | fit | toggleOrigin | toggleContainer | toggleDark | select key | copy text =>
      exact alike.map (f := fun app => app.act files _) fun _ _ => rfl

theorem shapes_eq (alike : Alike before after app other) (rect : Rect Float32) :
    app.shapes rect = other.shapes rect := by
  cases alike <;> rfl

/-! The whole window, where the bar is equally high. -/

section Level

variable (alike : Alike before after app other)
  (level : Panel.heightWith before = Panel.heightWith after)

include alike level

theorem barHeight_eq : Panel.barHeight app = Panel.barHeight other := by
  cases alike with
  | same app => rfl
  | apart app =>
      rw [Panel.barHeight_eq, Panel.barHeight_eq]
      exact level

theorem placed_eq : Panel.placed app = Panel.placed other := by
  have height := alike.barHeight_eq level
  cases alike with
  | same app => rfl
  | apart app =>
      simp only [Panel.placed, Panel.extent, Panel.listExtent, Panel.topBelow, Panel.listRoom,
        Panel.listTop, Panel.top, height]
      rfl

theorem dragged_eq : Panel.dragged app = Panel.dragged other := by
  have height := alike.barHeight_eq level
  cases alike with
  | same app => rfl
  | apart app =>
      simp only [Panel.dragged, Panel.listRoom, Panel.listTop, Panel.top, height]
      rfl

theorem canvasRect_eq : Panel.canvasRect app = Panel.canvasRect other := by
  have height := alike.barHeight_eq level
  cases alike with
  | same app => rfl
  | apart app =>
      rw [Panel.canvasRect, Panel.canvasRect, height]
      rfl

theorem measure :
    Alike before after { app with view := Panel.measure app }
      { other with view := Panel.measure other } := by
  have height := alike.barHeight_eq level
  cases alike with
  | same app => exact .same _
  | apart app =>
      have measured : Panel.measure (app.withStatus after) =
          (Panel.measure (app.withStatus before)).withStatus after := by
        simp only [Panel.measure, Panel.length, Panel.topBelow, Panel.listRoom, Panel.listTop,
          Panel.top, height]
        rfl
      rw [measured]
      exact .apart { app with view := Panel.measure (app.withStatus before) }

theorem action?_eq (place : Place) : place.action? app = place.action? other := by
  cases place with
  | bar action => rfl
  | below pos => rw [Place.action?, Place.action?, alike.placed_eq level]

theorem grabs_eq (place : Place) : place.grabs app = place.grabs other := by
  cases place with
  | bar action => rfl
  | below pos =>
      simp only [Place.grabs, alike.action?_eq level, alike.canvasRect_eq level,
        alike.dragged_eq level]
      cases alike <;> rfl

theorem pointer_eq (mouse : Mouse) : mouse.pointer app = mouse.pointer other := by
  cases mouse with
  | away | down place => rfl
  | up place =>
      cases place with
      | bar action => rfl
      | below pos => rw [Mouse.pointer, Mouse.pointer, alike.canvasRect_eq level]

theorem respond (files : Files) (mouse : Mouse) :
    Alike before after (app.respond files mouse) (other.respond files mouse) := by
  cases mouse with
  | away => exact alike
  | down place =>
      rw [App.respond, App.respond, alike.grabs_eq level]
      split
      · exact alike.map App.endEdit_withStatus
      · exact alike
  | up place =>
      simp only [App.respond, alike.action?_eq level]
      cases place.action? other with
      | none => exact alike.leaveEdit none
      | some action => exact (alike.leaveEdit (some action)).act files action

theorem update (mouse : Mouse) (files : Files) :
    Alike before after (app.update mouse files).1 (other.update mouse files).1 := by
  have shown := alike.refreshed
  have acted := shown.respond level files mouse
  have fitted := acted.fitIfRequested (Panel.canvasRect (other.refreshed.respond files mouse))
  simp only [App.update, acted.canvasRect_eq level, shown.pointer_eq level]
  exact (fitted.measure level).point _ _

variable {text : String} (unread : before ≠ some text ∧ after ≠ some text)

include unread

omit level in
theorem filter_bar_eq :
    (Panel.bar app).filter (·.text = text) = (Panel.bar other).filter (·.text = text) := by
  cases alike with
  | same app => rfl
  | apart app =>
      rw [Panel.filter_bar_withStatus unread.1, Panel.filter_bar_withStatus unread.2]

theorem ofText_eq : Place.ofText app text = Place.ofText other text := by
  rw [Place.ofText, Place.ofText, alike.filter_bar_eq unread, Panel.painted, Panel.painted,
    alike.placed_eq level]

theorem filter_texts_eq (files : Files) :
    (app.update .away files).2.filter (· = text) =
      (other.update .away files).2.filter (· = text) := by
  have shown := alike.refreshed
  have drawn := (shown.fitIfRequested (Panel.canvasRect other.refreshed)).shapes_eq
  have bar : ((Panel.bar app.refreshed).map (·.text)).filter (· = text) =
      ((Panel.bar other.refreshed).map (·.text)).filter (· = text) := by
    rw [List.filter_map, List.filter_map]
    exact congrArg _ (shown.filter_bar_eq unread)
  simp only [App.update, App.respond, Panel.texts, Panel.painted, shown.canvasRect_eq level,
    shown.placed_eq level, drawn, List.filter_append, bar]

theorem press (index : Nat) (files : Files) :
    Alike before after (app.press text index files).1 (other.press text index files).1 := by
  have first := alike.update level .away files
  have second := first.update level .away files
  simp only [App.press]
  rw [alike.filter_texts_eq level unread files, alike.refreshed.ofText_eq level unread]
  split
  · exact first
  · split
    · rename_i place _
      exact (second.update level (.down place) files).update level (.up place) files
    · exact (second.update level .away files).update level .away files

end Level

end Alike

namespace App.Event

/-- Whether something that happens to the window cannot tell two status lines apart. Where all of
the window is laid out they must be of one height, and a text that is looked for must be neither. -/
def Blind (before after : Option String) : Event → Prop
  | .redraw _ => Panel.heightWith before = Panel.heightWith after
  | .press text _ _ =>
    Panel.heightWith before = Panel.heightWith after ∧ before ≠ some text ∧ after ≠ some text
  | _ => True

end App.Event

/-- One step of the window. -/
theorem Alike.step {before after : Option String} {app other : App}
    (alike : Alike before after app other) {event : App.Event} (blind : event.Blind before after) :
    Alike before after (app.step event) (other.step event) := by
  cases event with
  | refresh => exact alike.map App.refresh_withStatus
  | load path content =>
      cases alike with
      | same app => exact .same _
      | apart app =>
          simp only [App.step, App.take_withStatus]
          exact .same _
  | choose index =>
      refine alike.map (f := fun app => app.step (.choose index)) fun app status => ?_
      simp only [App.step, App.current_withStatus]
      cases app.current[index]? <;> rfl
  | frame rect pointer =>
      exact alike.map (f := fun app => (app.canvasFrame rect pointer).1)
        fun app status => app.canvasFrame_withStatus status rect pointer
  | fit => exact alike.act {} .fit
  | serve request => exact alike.map (f := fun app => app.step (.serve request)) fun _ _ => rfl
  | arrange size bottomLeft =>
      exact alike.map (f := fun app => app.step (.arrange size bottomLeft)) fun _ _ => rfl
  | redraw files => exact alike.update blind .away files
  | press text index files => exact alike.press blind.1 blind.2 index files
  | close => exact alike.map App.close_withStatus

end StoryMarkers
