import StoryMarkers.App.Update
import StoryMarkers.Proofs.Subscription.Requests

/-!
The selection in the window. A refresh drops it with its marker, and nothing but a refresh changes
the markers; what the list and the canvas select is a marker that they show. So whatever happens in
between, what is selected is a marker of the latest refresh.
-/

set_option autoImplicit false

namespace StoryMarkers

theorem mem_of_firstLeast {β : Type} {key : β → Int} {items : List β} {best : β}
    (found : firstLeast key items = some best) : best ∈ items := by
  induction items generalizing best with
  | nil => cases found
  | cons item rest ih =>
      cases later : firstLeast key rest with
      | none =>
          simp only [firstLeast, later, Option.some.injEq] at found
          exact found ▸ List.mem_cons_self
      | some other =>
          have behind : other ∈ rest := ih later
          simp only [firstLeast, later] at found
          split at found
          · exact Option.some.inj found ▸ List.mem_cons_of_mem item behind
          · exact Option.some.inj found ▸ List.mem_cons_self

/-- What is picked is one of the markers. -/
theorem Overlay.exists_of_pick {overlay : Overlay} {markers : List Marker} {pos : Point Float32}
    {key : String} (picked : overlay.pick markers pos = some key) :
    ∃ marker ∈ markers, marker.key = key := by
  obtain ⟨⟨distance, marker⟩, least, rfl⟩ := Option.map_eq_some_iff.mp picked
  obtain ⟨reached, -⟩ := List.mem_filter.mp (mem_of_firstLeast least)
  obtain ⟨other, member, placed⟩ := List.mem_filterMap.mp reached
  obtain ⟨place, -, same⟩ := Option.map_eq_some_iff.mp placed
  cases same
  exact ⟨marker, member, rfl⟩

/-- The markers on the screen, and what is selected. -/
structure Choice where
  markers : List Marker
  selected : Option String

/-- Whether nothing is selected but the key of a marker on the screen. -/
def Choice.Valid (choice : Choice) : Prop :=
  ∀ key, choice.selected = some key → ∃ marker ∈ choice.markers, marker.key = key

namespace View

@[simp] theorem selected_set (view : View) (dimension : Dimension) (x : Float32) :
    (view.set dimension x).selected = view.selected := by
  cases dimension <;> rfl

@[simp] theorem selected_showField (view : View) (dimension : Dimension) :
    (view.showField dimension).selected = view.selected := by
  simp only [showField]
  split <;> simp

@[simp] theorem selected_finishEdit (view : View) : view.finishEdit.selected = view.selected := by
  rw [finishEdit]
  split <;> simp

end View

namespace App

def choice (app : App) : Choice := ⟨app.current, app.view.selected⟩

@[simp] theorem choice_take (app : App) (path : String)
    (snapshot : Except SnapshotError Snapshot) : (app.take path snapshot).choice = app.choice := by
  cases snapshot <;> rfl

@[simp] theorem choice_load (app : App) (files : Files) (path : String) :
    (app.load files path).choice = app.choice :=
  app.choice_take path _

@[simp] theorem choice_syncViewport (app : App) : app.syncViewport.choice = app.choice := rfl

@[simp] theorem choice_endEdit (app : App) : app.endEdit.choice = app.choice := rfl

@[simp] theorem choice_close (app : App) : app.close.choice = app.choice := rfl

@[simp] theorem choice_fitIfRequested (app : App) (rect : Rect Float32) :
    (app.fitIfRequested rect).choice = app.choice := by
  rw [fitIfRequested]
  split <;> rfl

@[simp] theorem choice_moveCanvas (app : App) (rect : Rect Float32) (pointer : Pointer) :
    (app.moveCanvas rect pointer).choice = app.choice := rfl

@[simp] theorem choice_showSize (app : App) : app.showSize.choice = app.choice := by
  rw [showSize]
  split
  · simp [choice]
  · rfl

@[simp] theorem choice_leaveEdit (app : App) (action : Option Action) :
    (app.leaveEdit action).choice = app.choice := by
  rw [leaveEdit]
  split
  · split
    · rfl
    · simp [choice]
  · rfl

@[simp] theorem choice_turn (app : App) : app.turn.choice = app.choice := rfl

/-- Of what a press sets off only a choice from the list selects anything. -/
theorem choice_act (app : App) (files : Files) (action : Action) :
    (app.act files action).choice =
      match action with
      | .select key => ⟨app.current, some key⟩
      | _ => app.choice := by
  cases action with
  | reload =>
      simp only [act]
      split <;> simp
  | type dimension =>
      simp only [act]
      split <;> rfl
  | fold => simp [act]
  | fit | toggleOrigin | toggleContainer | toggleDark | select key | copy text => rfl

/-- A refresh keeps what is selected exactly if its marker is among the new ones. -/
theorem selected_refresh_eq_some_iff {app : App} {key : String} :
    app.refresh.view.selected = some key ↔
      app.view.selected = some key ∧ ∃ marker ∈ app.refresh.current, marker.key = key := by
  change keptSelection app.view.selected app.refresh.current = some key ↔ _
  simp [keptSelection, Option.filter_eq_some_iff]

theorem valid_refresh (app : App) : app.refresh.choice.Valid :=
  fun _ selected => (selected_refresh_eq_some_iff.mp selected).2

end App

namespace Panel

/-- Whether what some rows select are markers of a list. -/
def Lists (markers : List Marker) (rows : List Row) : Prop :=
  ∀ row ∈ rows, ∀ widget ∈ row.widgets, ∀ key, widget.action = some (.select key) →
    ∃ marker ∈ markers, marker.key = key

variable {markers : List Marker}

theorem lists_append {above below : List Row} :
    Lists markers (above ++ below) ↔ Lists markers above ∧ Lists markers below :=
  List.forall_mem_append

theorem lists_rowsAbove (app : App) : Lists markers (rowsAbove app) := by
  have settings : Lists markers (settings app) := by
    simp [Panel.settings, Lists, setting, marked]
  have viewport : Lists markers (viewport app) := by
    rw [Panel.viewport]
    refine List.forall_mem_cons.mpr ⟨by simp [marked], ?_⟩
    split
    · simp
    · split
      · exact settings
      · simp
  rw [rowsAbove, lists_append, lists_append, lists_append]
  exact ⟨⟨⟨viewport, by simp [Lists, rule]⟩, by simp [Lists, cursor, heading, line]⟩,
    by simp [Lists, rule, heading]⟩

theorem lists_markerRows (app : App) : Lists app.current (markerRows app) := by
  intro row member widget here key selects
  obtain ⟨marker, listed, rfl⟩ := List.mem_map.mp member
  simp only [markerRow, List.mem_cons, List.not_mem_nil, or_false] at here
  rcases here with rfl | rfl | rfl
  · cases selects
    exact ⟨marker, listed, rfl⟩
  · cases selects
  · cases selects

theorem lists_details (app : App) (room : Nat) (marker : Marker) :
    Lists markers (details app room marker) := by
  rw [details, lists_append, lists_append]
  refine ⟨⟨by simp [Lists, line], by simp [Lists, line]⟩, ?_⟩
  split <;> simp [Lists, line, rule]

theorem lists_rowsBelow (app : App) : Lists markers (rowsBelow app) := by
  rw [rowsBelow, lists_append]
  refine ⟨by simp [Lists, rule, heading], ?_⟩
  split
  · exact lists_details app _ _
  · simp [Lists, line]

/-- The bar selects nothing. -/
theorem bar_ne_select {app : App} {widget : Widget} (member : widget ∈ bar app) (key : String) :
    widget.action ≠ some (.select key) := by
  revert widget
  simp only [bar, List.forall_mem_append]
  refine ⟨⟨⟨by simp [label], ?_⟩, by simp [label, button]⟩, ?_⟩
  · split <;> simp [button]
  · split <;> simp [label]

theorem exists_of_mem_placeAll {left top : Nat} {extent : Extent} {rows : List Row}
    {placed : Placed} (member : placed ∈ Row.placeAll left extent top rows) :
    ∃ row ∈ rows, placed.widget ∈ row.widgets := by
  induction rows generalizing top with
  | nil => cases member
  | cons row rest ih =>
      rcases List.mem_append.mp member with here | later
      · obtain ⟨widget, among, rfl⟩ := List.mem_map.mp here
        exact ⟨row, List.mem_cons_self, among⟩
      · obtain ⟨other, behind, among⟩ := ih later
        exact ⟨other, List.mem_cons_of_mem row behind, among⟩

theorem Lists.exists_of_mem_placeAll {left top : Nat} {extent : Extent} {rows : List Row}
    (lists : Lists markers rows) {placed : Placed}
    (member : placed ∈ Row.placeAll left extent top rows) {key : String}
    (selects : placed.widget.action = some (.select key)) :
    ∃ marker ∈ markers, marker.key = key := by
  obtain ⟨row, among, widget⟩ := Panel.exists_of_mem_placeAll member
  exact lists row among placed.widget widget key selects

end Panel

namespace Place

/-- What a press below the bar selects is a marker in the list. -/
theorem exists_of_action? {app : App} {pos : Point Float32} {key : String}
    (selects : action? app (below pos) = some (.select key)) :
    ∃ marker ∈ app.current, marker.key = key := by
  obtain ⟨placed, covering, selects⟩ := List.exists_of_findSome?_eq_some selects
  have member : placed ∈ Panel.placed app := (List.mem_filter.mp covering).1
  rw [Panel.placed, List.mem_append, List.mem_append] at member
  rcases member with (above | list) | rest
  · exact (Panel.lists_rowsAbove app).exists_of_mem_placeAll above selects
  · exact (Panel.lists_markerRows app).exists_of_mem_placeAll list selects
  · exact (Panel.lists_rowsBelow app).exists_of_mem_placeAll rest selects

/-- Whether there can be such a place: no button of the bar selects anything. -/
def Real (place : Place) : Prop := ∀ key, place ≠ bar (some (.select key))

/-- Whatever text is pressed, it stands where nothing but a marker can be selected. -/
theorem real_of_mem_ofText {app : App} {text : String} {place : Place}
    (member : place ∈ ofText app text) : place.Real := by
  rintro key rfl
  rcases List.mem_append.mp member with there | there
  · obtain ⟨widget, among, selects⟩ := List.mem_map.mp there
    exact Panel.bar_ne_select (List.mem_filter.mp among).1 key (Place.bar.inj selects)
  · obtain ⟨placed, -, impossible⟩ := List.mem_map.mp there
    cases impossible

theorem Real.exists_of_action? {place : Place} (real : place.Real) {app : App} {key : String}
    (selects : place.action? app = some (.select key)) :
    ∃ marker ∈ app.current, marker.key = key := by
  cases place with
  | bar action => exact absurd (congrArg bar selects) (real key)
  | below pos => exact Place.exists_of_action? selects

end Place

namespace Choice.Valid

variable {app : App}

theorem point (valid : app.choice.Valid) (rect : Rect Float32) (pointer : Pointer) :
    (app.point rect pointer).choice.Valid := by
  rw [App.point]
  split
  · exact valid
  · rename_i pos _
    intro key selected
    change (if pointer.clicked then _ else _) = some key at selected
    split at selected
    · exact Overlay.exists_of_pick selected
    · exact valid key selected

theorem canvasFrame (valid : app.choice.Valid) (rect : Rect Float32) (pointer : Pointer) :
    (app.canvasFrame rect pointer).1.choice.Valid := by
  apply point
  simpa using valid

theorem act (valid : app.choice.Valid) (files : Files) {action : Action}
    (listed : ∀ key, action = .select key → ∃ marker ∈ app.current, marker.key = key) :
    (app.act files action).choice.Valid := by
  rw [App.choice_act]
  split
  · rename_i key
    intro other selected
    cases selected
    exact listed key rfl
  · exact valid

theorem respond (valid : app.choice.Valid) (files : Files) (mouse : Mouse)
    (real : ∀ place, mouse = .up place → place.Real) : (app.respond files mouse).choice.Valid := by
  cases mouse with
  | away => exact valid
  | down place =>
      simp only [App.respond]
      split
      · exact valid
      · exact valid
  | up place =>
      have left : (app.leaveEdit (place.action? app)).choice.Valid := by simpa using valid
      have shown : (app.leaveEdit (place.action? app)).current = app.current :=
        congrArg Choice.markers (app.choice_leaveEdit _)
      simp only [App.respond]
      split
      · rename_i action pressed
        refine left.act files ?_
        rintro key rfl
        rw [shown]
        exact (real place rfl).exists_of_action? pressed
      · exact left

end Choice.Valid

namespace App

theorem valid_refreshed (app : App) : app.refreshed.choice.Valid := by
  rw [refreshed, choice_showSize]
  exact valid_refresh _

/-- An update begins with a refresh: whatever was selected before it, afterwards only what is on the
screen is. -/
theorem valid_update (app : App) (mouse : Mouse) (files : Files)
    (real : ∀ place, mouse = .up place → place.Real) :
    (app.update mouse files).1.choice.Valid := by
  have acted := app.valid_refreshed.respond files mouse real
  rw [update]
  apply Choice.Valid.point
  change (fitIfRequested _ _).choice.Valid
  rw [choice_fitIfRequested]
  exact acted

theorem valid_press (app : App) (text : String) (index : Nat) (files : Files) :
    (app.press text index files).1.choice.Valid := by
  simp only [press]
  split
  · exact valid_update app .away files nofun
  · split
    · rename_i place found
      refine valid_update _ (.up place) files ?_
      rintro _ ⟨⟩
      exact Place.real_of_mem_ofText (List.mem_of_getElem? found)
    · exact valid_update _ .away files nofun

/-- What can happen to the window. -/
inductive Event where
  | refresh
  /-- A snapshot is loaded, whatever came of reading its file. -/
  | load (path : String) (content : Except ReadError String)
  /-- The service is asked for something, or takes a streamed value. -/
  | serve (request : Request)
  /-- A marker is chosen by its place in the list. -/
  | choose (index : Nat)
  /-- A frame of the canvas: the pointer moves, drags, scrolls or clicks. -/
  | frame (rect : Rect Float32) (pointer : Pointer)
  | fit
  /-- The viewport size and the origin are set. -/
  | arrange (size : Point Float32) (bottomLeft : Bool)
  /-- An update of the whole window in which nothing is pressed. -/
  | redraw (files : Files)
  | press (text : String) (index : Nat) (files : Files)
  | close

def step (app : App) : Event → App
  | .refresh => app.refresh
  | .load path content => app.take path (Snapshot.ofContent content)
  | .serve request => { app with service := (app.service.serve request).1 }
  | .choose index =>
    match app.current[index]? with
    | some marker => app.act {} (.select marker.key)
    | none => app
  | .frame rect pointer => (app.canvasFrame rect pointer).1
  | .fit => app.act {} .fit
  | .arrange size bottomLeft =>
    { app with view := { app.view with size, bottomLeft } : App }.syncViewport
  | .redraw files => (app.update .away files).1
  | .press text index files => (app.press text index files).1
  | .close => app.close

def run (app : App) (events : List Event) : App := events.foldl step app

theorem step_load (app : App) (files : Files) (path : String) :
    app.step (.load path (files.read path)) = app.load files path := rfl

/-- A gesture is a run of frames. -/
theorem run_frames (app : App) (rect : Rect Float32) (gesture : Gesture) :
    app.run ((gesture.frames rect).map (.frame rect)) = app.perform rect gesture :=
  List.foldl_map

theorem valid_step {app : App} (valid : app.choice.Valid) (event : Event) :
    (app.step event).choice.Valid := by
  cases event with
  | refresh => exact app.valid_refresh
  | load path content => simpa [step] using valid
  | serve request => exact valid
  | choose index =>
      simp only [step]
      split
      · rename_i marker found
        refine valid.act {} ?_
        rintro _ ⟨⟩
        exact ⟨marker, List.mem_of_getElem? found, rfl⟩
      · exact valid
  | frame rect pointer => exact valid.canvasFrame rect pointer
  | fit => exact valid
  | arrange size bottomLeft => exact valid
  | redraw files => exact app.valid_update .away files nofun
  | press text index files => exact app.valid_press text index files
  | close => simpa only [step, choice_close] using valid

theorem valid_run {app : App} (valid : app.choice.Valid) (events : List Event) :
    (app.run events).choice.Valid := by
  induction events generalizing app with
  | nil => exact valid
  | cons event events ih => exact ih (valid_step valid event)

/-- What is selected is always a marker on the screen, whatever has happened since the window came
up. A refresh shows the markers of the snapshot that the service then holds, keeps what is selected
if it is one of them, and drops it if not. -/
theorem run_selects_shown (settings : Settings) (snapshot : Snapshot) (path : Option String)
    (events : List Event) :
    let reached := (start settings snapshot path).run events
    let markers := (reached.watcher.update reached.service.snapshot).2.markers
    (∀ key, reached.view.selected = some key → ∃ marker ∈ reached.current, marker.key = key) ∧
    reached.refresh.current = markers ∧
    (∀ key, reached.view.selected = some key →
      reached.refresh.view.selected =
        if ∃ marker ∈ markers, marker.key = key then some key else none) ∧
    (reached.view.selected = none → reached.refresh.view.selected = none) := by
  intro reached markers
  have unselected : (start settings snapshot path).choice.Valid := nofun
  refine ⟨valid_run unselected events, rfl, ?_, ?_⟩
  · intro key selected
    split
    · rename_i listed
      exact selected_refresh_eq_some_iff.mpr ⟨selected, listed⟩
    · rename_i gone
      rw [Option.eq_none_iff_forall_ne_some]
      intro other kept
      obtain ⟨before, listed⟩ := selected_refresh_eq_some_iff.mp kept
      cases selected.symm.trans before
      exact gone listed
  · intro selected
    rw [Option.eq_none_iff_forall_ne_some]
    intro key kept
    cases selected.symm.trans (selected_refresh_eq_some_iff.mp kept).1

/-- The moon stays selected until the first refresh after it has become invisible. -/
example :
    let moon : Owner := {
      identifier := "Moon"
      tags := ["Apollo"]
      properties := Tracked.all.map fun kind => { uri := kind.uri "Scene" "Moon", value := "true" } }
    let tree : Tree := {
      subowners := [
        { identifier := "Story", properties := [{ uri := "Story.Identifier", value := "Apollo" }] },
        { identifier := "Scene", subowners := [moon] }] }
    let hidden := (start {} { tree } none).run
      [.refresh, .choose 0, .serve (.stream "Scene.Moon.ScreenVisibility" "false")]
    hidden.view.selected = some "Scene.Moon.ScreenSpacePosition" ∧
      hidden.refresh.view.selected = none := by
  decide +kernel

end App

end StoryMarkers
