import Mathlib.Data.List.Basic
import StoryMarkers.Proofs.Overlay.Distances

set_option autoImplicit false

namespace StoryMarkers

section FirstLeast

variable {β : Type} {key : β → Int} {items : List β} {best : β}

theorem firstLeast_eq_none_iff : firstLeast key items = none ↔ items = [] := by
  cases items with
  | nil => simp [firstLeast]
  | cons item rest =>
      simp only [firstLeast]
      split
      · simp
      · split <;> simp

/-- What comes before the first least item is greater, and nothing after it is less. -/
theorem split_of_firstLeast (found : firstLeast key items = some best) :
    ∃ before after, items = before ++ best :: after ∧
      (∀ item ∈ before, key best < key item) ∧ ∀ item ∈ after, key best ≤ key item := by
  induction items generalizing best with
  | nil => cases found
  | cons item rest ih =>
      cases later : firstLeast key rest with
      | none =>
          simp only [firstLeast, later, Option.some.injEq] at found
          subst found
          obtain rfl := firstLeast_eq_none_iff.mp later
          exact ⟨[], [], rfl, by simp, by simp⟩
      | some other =>
          obtain ⟨before, after, rfl, greater, least⟩ := ih later
          simp only [firstLeast, later] at found
          split at found
          · rename_i less
            cases found
            exact ⟨item :: before, after, rfl, List.forall_mem_cons.mpr ⟨less, greater⟩, least⟩
          · rename_i bound
            cases found
            refine ⟨[], _, rfl, by simp, ?_⟩
            rw [List.forall_mem_append, List.forall_mem_cons]
            exact ⟨fun item member => by have := greater item member; omega, by omega,
              fun item member => by have := least item member; omega⟩

end FirstLeast

/-- Whether both coordinates of a marker are finite. -/
def Marker.IsFinite (marker : Marker) : Prop :=
  marker.xy.1.isFinite = true ∧ marker.xy.2.isFinite = true

namespace Overlay

variable {overlay : Overlay} {markers : List Marker} {pos : Point Float32}

theorem isSome_screenPos?_iff {marker : Marker} :
    (overlay.screenPos? marker).isSome = true ↔ marker.IsFinite := by
  rw [screenPos?, Option.isSome_map, Viewport.toCanvas?, Marker.IsFinite, ← Bool.and_eq_true]
  split <;> simp_all

/-- How far from a position in the window a marker lies, if it lies anywhere. -/
def distance? (overlay : Overlay) (pos : Point Float32) (marker : Marker) : Option Float32 :=
  (overlay.screenPos? marker).map fun place => (place - pos).length

/-- A marker within reach, with its distance. -/
def reached? (overlay : Overlay) (pos : Point Float32) (marker : Marker) :
    Option (Float32 × Marker) :=
  ((overlay.distance? pos marker).filter (· < reach)).map (·, marker)

theorem reached?_eq_some_iff {marker : Marker} {found : Float32 × Marker} :
    overlay.reached? pos marker = some found ↔
      overlay.distance? pos marker = some found.1 ∧ found.1 < reach ∧ marker = found.2 := by
  obtain ⟨distance, other⟩ := found
  simp [reached?, Option.filter_eq_some_iff, and_assoc]

theorem reached?_eq_none_iff {marker : Marker} : overlay.reached? pos marker = none ↔
    ∀ distance, overlay.distance? pos marker = some distance → ¬ distance < reach := by
  simp [reached?, Option.filter_eq_none_iff]

theorem within_eq (overlay : Overlay) (markers : List Marker) (pos : Point Float32) :
    overlay.within markers pos = markers.filterMap (overlay.reached? pos) := by
  rw [within, List.filter_filterMap]
  refine List.filterMap_congr fun marker _ => ?_
  rw [reached?, distance?]
  cases overlay.screenPos? marker with
  | none => rfl
  | some place => simp [Option.filter]

/-- What holds of all distances of hits holds of all distances within reach. -/
theorem forall_hits_iff {holds : Float32 → Prop} :
    (∀ hit ∈ markers.filterMap (overlay.reached? pos), holds hit.1) ↔
      ∀ marker ∈ markers, ∀ distance, overlay.distance? pos marker = some distance →
        distance < reach → holds distance := by
  constructor
  · intro hits marker member distance found near
    have hit : overlay.reached? pos marker = some (distance, marker) :=
      reached?_eq_some_iff.mpr ⟨found, near, rfl⟩
    exact hits (distance, marker) (List.mem_filterMap.mpr ⟨marker, member, hit⟩)
  · intro distances hit among
    obtain ⟨marker, member, reached⟩ := List.mem_filterMap.mp among
    obtain ⟨found, near, -⟩ := reached?_eq_some_iff.mp reached
    exact distances marker member hit.1 found near

theorem exists_place_of_distance? {marker : Marker} {distance : Float32}
    (found : overlay.distance? pos marker = some distance) :
    ∃ place, overlay.screenPos? marker = some place ∧ marker.IsFinite ∧
      (place - pos).length = distance := by
  obtain ⟨place, placed, measured⟩ := Option.map_eq_some_iff.mp found
  exact ⟨place, placed, isSome_screenPos?_iff.mp (Option.isSome_of_eq_some placed), measured⟩

/-- What lies within reach has a plain number as its distance. -/
theorem plain_of_distance? {marker : Marker} {distance : Float32}
    (found : overlay.distance? pos marker = some distance) (near : distance < reach) :
    Precision.Plain distance := by
  obtain ⟨place, -, -, rfl⟩ := exists_place_of_distance? found
  exact Point.plain_length near

/-- A marker in its place in a list that is the first of the nearest ones within reach. -/
structure Nearest (overlay : Overlay) (markers : List Marker) (pos : Point Float32)
    (before : List Marker) (marker : Marker) (after : List Marker) (distance : Float32) : Prop where
  split : markers = before ++ marker :: after
  found : overlay.distance? pos marker = some distance
  reached : distance < reach
  least : ∀ other ∈ markers, ∀ further, overlay.distance? pos other = some further →
    ¬ further < distance
  first : ∀ other ∈ before, ∀ further, overlay.distance? pos other = some further →
    (further == distance) = false

/-- What is picked, in its place in the list: within reach, what comes before it has a greater key,
and what comes after it has no less. -/
theorem exists_hit_of_pick {key : String} (picked : overlay.pick markers pos = some key) :
    ∃ before marker after distance, markers = before ++ marker :: after ∧ marker.key = key ∧
      overlay.distance? pos marker = some distance ∧ distance < reach ∧
      (∀ other ∈ before, ∀ further, overlay.distance? pos other = some further →
        further < reach → orderKey distance < orderKey further) ∧
      ∀ other ∈ after, ∀ further, overlay.distance? pos other = some further →
        further < reach → orderKey distance ≤ orderKey further := by
  obtain ⟨⟨distance, marker⟩, least, rfl⟩ := Option.map_eq_some_iff.mp picked
  obtain ⟨nearer, further, split, greater, bound⟩ := split_of_firstLeast least
  rw [within_eq, List.filterMap_eq_append_iff] at split
  obtain ⟨start, rest, rfl, started, behind⟩ := split
  rw [List.filterMap_eq_cons_iff] at behind
  obtain ⟨skipped, item, after, rfl, nowhere, here, ended⟩ := behind
  obtain ⟨found, reached, rfl⟩ := reached?_eq_some_iff.mp here
  have before : (start ++ skipped).filterMap (overlay.reached? pos) = nearer := by
    rw [List.filterMap_append, started, List.filterMap_eq_nil_iff.mpr nowhere, List.append_nil]
  refine ⟨start ++ skipped, item, after, distance, ?_, rfl, found, reached, ?_, ?_⟩
  · rw [List.append_assoc]
  · rw [← before] at greater
    exact forall_hits_iff.mp greater
  · rw [← ended] at bound
    exact forall_hits_iff.mp bound

theorem exists_nearest {key : String} (picked : overlay.pick markers pos = some key) :
    ∃ before marker after distance,
      overlay.Nearest markers pos before marker after distance ∧ marker.key = key := by
  obtain ⟨before, marker, after, distance, split, named, found, reached, greater, bound⟩ :=
    exists_hit_of_pick picked
  have plain := plain_of_distance? found reached
  have least : ∀ other ∈ markers, ∀ further, overlay.distance? pos other = some further →
      further < reach → orderKey distance ≤ orderKey further := by
    intro other member further away near
    rw [split, List.mem_append, List.mem_cons] at member
    rcases member with among | rfl | among
    · exact (greater other among further away near).le
    · rw [found, Option.some.injEq] at away
      exact away ▸ le_rfl
    · exact bound other among further away near
  refine ⟨before, marker, after, distance, ⟨split, found, reached, ?_, ?_⟩, named⟩
  · intro other member further away less
    have near := Precision.single_lt_trans less reached
    have nearer := ((plain_of_distance? away near).lt_iff plain).mp less
    exact absurd (least other member further away near) nearer.not_ge
  · intro other among further away
    rw [Bool.eq_false_iff]
    intro equal
    have near := Precision.single_lt_of_beq_of_lt equal reached
    have same := ((plain_of_distance? away near).beq_iff plain).mp equal
    exact (greater other among further away near).ne' same

/-- Nothing is picked exactly if nothing is within reach. -/
theorem pick_eq_none_iff : overlay.pick markers pos = none ↔
    ∀ marker ∈ markers, ∀ distance, overlay.distance? pos marker = some distance →
      ¬ distance < reach := by
  rw [pick, Option.map_eq_none_iff, firstLeast_eq_none_iff, within_eq,
    List.filterMap_eq_nil_iff]
  exact forall₂_congr fun marker _ => reached?_eq_none_iff

theorem shapes_append (overlay : Overlay) (above below : List Marker) (selected : Option String) :
    overlay.shapes (above ++ below) selected =
      overlay.shapes above selected ++ overlay.shapes below selected :=
  List.flatMap_append

theorem shapes_cons_of_screenPos? {marker : Marker} {place : Point Float32}
    (placed : overlay.screenPos? marker = some place) (rest : List Marker)
    (selected : Option String) :
    overlay.shapes (marker :: rest) selected =
      overlay.markerShapes marker (selected = some marker.key) place ++
        overlay.shapes rest selected := by
  rw [shapes, List.flatMap_cons, placed]
  rfl

theorem dot_mem_markerShapes (overlay : Overlay) (marker : Marker) (selected : Bool)
    (place : Point Float32) :
    ∃ radius, .dot place radius (dotColor selected) ∈ overlay.markerShapes marker selected place := by
  simp only [markerShapes, List.mem_append, List.mem_singleton]
  exact ⟨_, Or.inl (Or.inl (Or.inr rfl))⟩

/-- A marker is painted exactly if its coordinates are finite. -/
theorem shapes_singleton_eq_nil_iff {marker : Marker} {selected : Option String} :
    overlay.shapes [marker] selected = [] ↔ ¬ marker.IsFinite := by
  rw [← isSome_screenPos?_iff]
  cases placed : overlay.screenPos? marker with
  | none => simp [shapes, placed]
  | some place =>
      obtain ⟨radius, drawn⟩ :=
        dot_mem_markerShapes overlay marker (selected = some marker.key) place
      rw [shapes_cons_of_screenPos? placed]
      simp [List.ne_nil_of_mem drawn]

/-- The pointer picks the nearest marker on the canvas. Nothing is picked exactly if no marker with
finite coordinates is within reach. Otherwise it is the key of such a marker: none in the list is
nearer, and none before it is as near. That marker is painted, in its place among the others, with
its dot around the position that its distance was measured from; a marker without finite coordinates
is not painted at all. -/
theorem pick_takes_first_nearest (overlay : Overlay) (markers : List Marker)
    (pos : Point Float32) :
    (overlay.pick markers pos = none ↔
      ¬ ∃ marker ∈ markers, marker.IsFinite ∧
        ∃ distance, overlay.distance? pos marker = some distance ∧ distance < reach) ∧
    (∀ key, overlay.pick markers pos = some key →
      ∃ before marker after place, marker.key = key ∧ marker.IsFinite ∧
        overlay.screenPos? marker = some place ∧
        overlay.Nearest markers pos before marker after (place - pos).length ∧
        ∀ selected : Option String,
          let shapes := overlay.markerShapes marker (selected = some key) place
          overlay.shapes markers selected =
            overlay.shapes before selected ++ shapes ++ overlay.shapes after selected ∧
          ∃ radius color, .dot place radius color ∈ shapes) ∧
    ∀ (marker : Marker) (selected : Option String),
      overlay.shapes [marker] selected = [] ↔ ¬ marker.IsFinite := by
  refine ⟨?_, ?_, fun marker selected => shapes_singleton_eq_nil_iff⟩
  · rw [pick_eq_none_iff]
    constructor
    · rintro beyond ⟨marker, member, -, distance, found, near⟩
      exact beyond marker member distance found near
    · intro nobody marker member distance found near
      obtain ⟨-, -, finite, -⟩ := exists_place_of_distance? found
      exact nobody ⟨marker, member, finite, distance, found, near⟩
  · intro key picked
    obtain ⟨before, marker, after, distance, nearest, rfl⟩ := exists_nearest picked
    obtain ⟨place, placed, finite, rfl⟩ := exists_place_of_distance? nearest.found
    refine ⟨before, marker, after, place, rfl, finite, placed, nearest, ?_⟩
    intro selected shapes
    constructor
    · rw [nearest.split, shapes_append, shapes_cons_of_screenPos? placed, List.append_assoc]
    · obtain ⟨radius, drawn⟩ :=
        dot_mem_markerShapes overlay marker (selected = some marker.key) place
      exact ⟨radius, _, drawn⟩

/-- A marker of the size of a moon. -/
def moonAt (name : String) (position : List Float) : Marker where
  key := name
  identifier := name
  position
  size := 2
  showsInfo := false
  showsLabel := true
  radius := 10
  planet := none

/-- One moon has no second coordinate, one is out of reach, and two are equally near on either side
of the pointer, the second of them listed once more. -/
theorem ganymede_is_picked :
    let overlay : Overlay := {
      canvas := .ofSize ⟨1000.0, 1000.0⟩
      viewport := { bottomLeft := false, size := ⟨1000.0, 1000.0⟩ }
      view := ⟨⟨0.0, 0.0⟩, ⟨1000.0, 1000.0⟩⟩ }
    let markers := [moonAt "Io" [500], moonAt "Europa" [500, 530], moonAt "Ganymede" [508, 500],
      moonAt "Callisto" [492, 500], moonAt "Callisto" [500, 508]]
    let pos : Point Float32 := ⟨500.0, 500.0⟩
    overlay.pick markers pos = some "Ganymede" ∧
      ∃ before marker after place, marker.key = "Ganymede" ∧ marker.IsFinite ∧
        overlay.screenPos? marker = some place ∧
        overlay.Nearest markers pos before marker after (place - pos).length := by
  intro overlay markers pos
  have picked : overlay.pick markers pos = some "Ganymede" := by decide +kernel
  obtain ⟨-, nearest, -⟩ := pick_takes_first_nearest overlay markers pos
  obtain ⟨before, marker, after, place, named, finite, placed, first, -⟩ :=
    nearest "Ganymede" picked
  exact ⟨picked, before, marker, after, place, named, finite, placed, first⟩

end Overlay

end StoryMarkers
