import StoryMarkers.Proofs.Marker.Comparison
import StoryMarkers.Settings.Load
import StoryMarkers.Subscription.Watcher

set_option autoImplicit false

namespace StoryMarkers

open Comparison

namespace Policy

/-- What is cut down to a cap where it reaches it. -/
def capped (cap x : Float) : Float := if cap ≤ x then cap else x

/-- What is raised to a floor where it does not exceed it. -/
def raised (floor x : Float) : Float := if x ≤ floor then floor else x

section Bounds

variable {cap floor x y : Float}

theorem isNaN_capped (cap x : Float) : (capped cap x).isNaN = x.isNaN := by
  rw [capped]
  split
  · rename_i reached
    rw [left_isNumber reached, right_isNumber reached]
  · rfl

theorem isNaN_raised (floor x : Float) : (raised floor x).isNaN = x.isNaN := by
  rw [raised]
  split
  · rename_i below
    rw [left_isNumber below, right_isNumber below]
  · rfl

theorem capped_of_isNaN (unbounded : cap.isNaN = true) (x : Float) : capped cap x = x := by
  refine if_neg fun reached => ?_
  rw [left_isNumber reached] at unbounded
  cases unbounded

theorem raised_of_isNaN (unbounded : floor.isNaN = true) (x : Float) : raised floor x = x := by
  refine if_neg fun below => ?_
  rw [right_isNumber below] at unbounded
  cases unbounded

theorem capped_le (bound : cap.isNaN = false) (number : x.isNaN = false) : capped cap x ≤ cap := by
  rw [capped]
  split
  · exact refl bound
  · rename_i unreached
    exact (total number bound).resolve_right unreached

theorem le_raised (bound : floor.isNaN = false) (number : x.isNaN = false) :
    floor ≤ raised floor x := by
  rw [raised]
  split
  · exact refl bound
  · rename_i above
    exact (total number bound).resolve_left above

theorem capped_le_self (number : x.isNaN = false) : capped cap x ≤ x := by
  rw [capped]
  split
  · assumption
  · exact refl number

theorem self_le_raised (number : x.isNaN = false) : x ≤ raised floor x := by
  rw [raised]
  split
  · assumption
  · exact refl number

theorem le_capped (fits : y ≤ cap) (le : y ≤ x) : y ≤ capped cap x := by
  rw [capped]
  split <;> assumption

theorem raised_le (fits : floor ≤ y) (le : x ≤ y) : raised floor x ≤ y := by
  rw [raised]
  split <;> assumption

theorem capped_mono (le : x ≤ y) : capped cap x ≤ capped cap y := by
  by_cases reached : cap ≤ y
  · have whole : capped cap y = cap := if_pos reached
    rw [whole]
    exact capped_le (left_isNumber reached) (left_isNumber le)
  · have whole : capped cap y = y := if_neg reached
    rw [whole]
    exact trans (capped_le_self (left_isNumber le)) le

theorem raised_mono (le : x ≤ y) : raised floor x ≤ raised floor y := by
  by_cases below : x ≤ floor
  · have whole : raised floor x = floor := if_pos below
    rw [whole]
    exact le_raised (right_isNumber below) (right_isNumber le)
  · have whole : raised floor x = x := if_neg below
    rw [whole]
    exact trans le (self_le_raised (right_isNumber le))

end Bounds

variable {policy : Policy} {radius : Float}

theorem size_eq (policy : Policy) (radius : Float) : policy.size radius =
    raised policy.minSize (capped policy.maxSize (radius * policy.sizeFactor)) := rfl

theorem isNaN_size (policy : Policy) (radius : Float) :
    (policy.size radius).isNaN = (radius * policy.sizeFactor).isNaN := by
  rw [size_eq, isNaN_raised, isNaN_capped]

theorem size_mem_bounds (ordered : policy.minSize ≤ policy.maxSize)
    (number : (radius * policy.sizeFactor).isNaN = false) :
    policy.minSize ≤ policy.size radius ∧ policy.size radius ≤ policy.maxSize := by
  have capped_number := (isNaN_capped policy.maxSize _).trans number
  rw [size_eq]
  exact ⟨le_raised (left_isNumber ordered) capped_number,
    raised_le ordered (capped_le (right_isNumber ordered) number)⟩

theorem size_beq_of_mem (low : policy.minSize ≤ radius * policy.sizeFactor)
    (high : radius * policy.sizeFactor ≤ policy.maxSize) :
    (policy.size radius == radius * policy.sizeFactor) = true := by
  have number := left_isNumber high
  have capped_number := (isNaN_capped policy.maxSize _).trans number
  rw [size_eq]
  refine beq_of_le_of_le (raised_le low (capped_le_self number)) ?_
  exact trans (le_capped high (refl number)) (self_le_raised capped_number)

theorem size_of_inverted (inverted : policy.maxSize < policy.minSize)
    (number : (radius * policy.sizeFactor).isNaN = false) :
    policy.size radius = policy.minSize := by
  have below := le_of_lt inverted
  rw [size_eq]
  exact if_pos (trans (capped_le (left_isNumber below) number) below)

theorem size_mono {other : Float}
    (le : radius * policy.sizeFactor ≤ other * policy.sizeFactor) :
    policy.size radius ≤ policy.size other := by
  rw [size_eq, size_eq]
  exact raised_mono (capped_mono le)

theorem validate_eq_ok_iff : policy.validate = .ok () ↔ policy.minSize ≤ policy.maxSize := by
  rw [validate]
  split <;> simp_all

end Policy

/-- Settings from a file are checked: their bounds are in order, and so neither is not a number. -/
theorem Settings.ordered_of_ofToml {text : String} {settings : Settings}
    (accepted : ofToml text = .ok settings) :
    settings.policy.minSize ≤ settings.policy.maxSize := by
  rw [ofToml] at accepted
  split at accepted
  · cases accepted
  · split at accepted
    · cases accepted
    · rename_i valid
      cases accepted
      exact Policy.validate_eq_ok_iff.mp valid

theorem Watcher.exists_radius_of_mem_markers {watcher : Watcher} {snapshot : Snapshot}
    {marker : Marker} (shown : marker ∈ (watcher.update snapshot).2.markers) :
    ∃ radius, marker.size = watcher.settings.policy.size radius := by
  obtain ⟨node, -, rfl⟩ := List.mem_map.mp shown
  exact ⟨_, rfl⟩

namespace Policy

/-- Sizes respect the bounds of the policy. Whatever the policy, a size is not a number exactly if
the scaled radius is none, greater radii never have smaller sizes, a bound that is not a number is
not applied, and where the bounds exclude each other the lower one is the only size. Bounds in order
hold every size and leave alone what lies between them, as they do for all markers under settings
that were read from a file. -/
theorem sizes_respect_bounds :
    (∀ (policy : Policy) (radius : Float),
      let scaled := radius * policy.sizeFactor
      let size := policy.size radius
      size.isNaN = scaled.isNaN ∧
      (scaled.isNaN = false → policy.minSize ≤ policy.maxSize →
        policy.minSize ≤ size ∧ size ≤ policy.maxSize) ∧
      (policy.minSize ≤ scaled → scaled ≤ policy.maxSize → (size == scaled) = true) ∧
      (scaled.isNaN = false → policy.maxSize < policy.minSize → size = policy.minSize) ∧
      (policy.minSize.isNaN = true → size = capped policy.maxSize scaled) ∧
      (policy.maxSize.isNaN = true → size = raised policy.minSize scaled) ∧
      ∀ other, scaled ≤ other * policy.sizeFactor → size ≤ policy.size other) ∧
    ∀ (text : String) (watcher : Watcher) (snapshot : Snapshot) (marker : Marker),
      Settings.ofToml text = .ok watcher.settings →
      marker ∈ (watcher.update snapshot).2.markers →
      marker.size.isNaN = true ∨
        watcher.settings.policy.minSize ≤ marker.size ∧
          marker.size ≤ watcher.settings.policy.maxSize := by
  refine ⟨fun policy radius => ⟨isNaN_size policy radius, fun number ordered => ?_, ?_,
    fun number inverted => ?_, fun unbounded => ?_, fun unbounded => ?_, fun other => size_mono⟩,
    ?_⟩
  · exact size_mem_bounds ordered number
  · exact size_beq_of_mem
  · exact size_of_inverted inverted number
  · rw [size_eq, raised_of_isNaN unbounded]
  · rw [size_eq, capped_of_isNaN unbounded]
  · intro text watcher snapshot marker accepted shown
    obtain ⟨radius, sized⟩ := Watcher.exists_radius_of_mem_markers shown
    rw [sized]
    cases number : (radius * watcher.settings.policy.sizeFactor).isNaN with
    | true => exact Or.inl ((isNaN_size _ radius).trans number)
    | false => exact Or.inr (size_mem_bounds (Settings.ordered_of_ofToml accepted) number)

/-- A moon on the screen. -/
def visibleMoon : Snapshot where
  tree := {
    subowners := [
      { identifier := "Story", properties := [{ uri := "Story.Identifier", value := "a" }] },
      { identifier := "Scene"
        subowners := [
          { identifier := "Moon"
            tags := ["story_a"]
            properties := [
              { uri := "Scene.Moon.ScreenSpacePosition", value := "[1,2]" },
              { uri := "Scene.Moon.ScreenVisibility", value := "true" },
              { uri := "Scene.Moon.DistanceFromCamToNode", value := "1e9" },
              { uri := "Scene.Moon.ScreenSizeRadius", value := "30" }] }] }] }

/-- The bounds of the defaults, bounds that exclude each other, a floor that is not a number, and a
marker under the bounds of a file. -/
theorem sizes_under_four_policies :
    let inverted : Policy := { minSize := 4, maxSize := 2 }
    let floorless : Policy := { minSize := 0 / 0 }
    let text := "[policy]\nmin_size = 2\nmax_size = 4"
    (({} : Policy).size 20 == 20 * 0.1) = true ∧
      inverted.size 20 = 4 ∧
      floorless.size 5 = capped 3 (5 * 0.1) ∧ floorless.size 5 ≤ floorless.size 20 ∧
      ∃ (watcher : Watcher) (marker : Marker), Settings.ofToml text = .ok watcher.settings ∧
        marker ∈ (watcher.update visibleMoon).2.markers ∧
        (marker.size.isNaN = true ∨
          watcher.settings.policy.minSize ≤ marker.size ∧
            marker.size ≤ watcher.settings.policy.maxSize) := by
  intro inverted floorless text
  obtain ⟨bounded, checked⟩ := sizes_respect_bounds
  obtain ⟨-, -, between, -⟩ := bounded {} 20
  obtain ⟨-, -, -, excluding, -⟩ := bounded inverted 20
  obtain ⟨-, -, -, -, open_below, -, ordered⟩ := bounded floorless 5
  refine ⟨between (by decide +kernel) (by decide +kernel),
    excluding (by decide +kernel) (by decide +kernel), open_below (by decide +kernel),
    ordered 20 (by decide +kernel), ?_⟩
  have shown : ((Settings.ofToml text).toOption.map fun settings =>
      (({ settings } : Watcher).update visibleMoon).2.markers.map (·.identifier)) =
        some ["Moon"] := by decide +kernel
  cases read : Settings.ofToml text with
  | error e =>
      rw [read] at shown
      cases shown
  | ok settings =>
      rw [read] at shown
      let watcher : Watcher := { settings }
      have names : (watcher.update visibleMoon).2.markers.map (·.identifier) = ["Moon"] :=
        Option.some.inj shown
      obtain ⟨marker, member, -⟩ := List.mem_map.mp (names ▸ List.mem_singleton_self "Moon")
      exact ⟨watcher, marker, rfl, member, checked text watcher visibleMoon marker read member⟩

end Policy

end StoryMarkers
