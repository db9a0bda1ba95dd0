import StoryMarkers.Proofs.Tree.WellAddressed
import StoryMarkers.Proofs.Tree.Writing
import StoryMarkers.Subscription.Service

set_option autoImplicit false

namespace StoryMarkers

namespace Property

/-- All of a property but how many listen to it. -/
def uncounted (p : Property) : Property := p.setListeners 0

@[simp] theorem uri_uncounted (p : Property) : p.uncounted.uri = p.uri := rfl

@[simp] theorem value_uncounted (p : Property) : p.uncounted.value = p.value := rfl

@[simp] theorem quoted_uncounted (p : Property) : p.uncounted.quoted = p.quoted := rfl

/-- All of a property but what is streamed. -/
def unvalued (p : Property) : Property := p.setValue ""

@[simp] theorem uri_unvalued (p : Property) : p.unvalued.uri = p.uri := rfl

@[simp] theorem listeners_unvalued (p : Property) : p.unvalued.listeners = p.listeners := rfl

end Property

namespace Tree

/-- Whether nobody listens to a tree. -/
def Unheard (tree : Tree) : Prop := ∀ p ∈ tree.allProperties, p.listeners = 0

/-- Whether no property has more than one listener, and one only under the given addresses. -/
def HeardWithin (tree : Tree) (uris : List String) : Prop :=
  ∀ p ∈ tree.allProperties, p.listeners = 0 ∨ p.listeners = 1 ∧ p.uri ∈ uris

/-- Whether no property has more than one listener. -/
def HeardOnce (tree : Tree) : Prop := ∀ p ∈ tree.allProperties, p.listeners = 0 ∨ p.listeners = 1

instance (tree : Tree) : Decidable tree.Unheard :=
  inferInstanceAs (Decidable (∀ p ∈ tree.allProperties, p.listeners = 0))

variable {tree : Tree} {uris : List String}

theorem Unheard.heardWithin (unheard : tree.Unheard) (uris : List String) :
    tree.HeardWithin uris :=
  fun p member => Or.inl (unheard p member)

theorem HeardWithin.heardOnce (heard : tree.HeardWithin uris) : tree.HeardOnce :=
  fun p member => (heard p member).imp_right And.left

theorem HeardOnce.toNat_le_one (once : tree.HeardOnce) {p : Property}
    (member : p ∈ tree.allProperties) : p.listeners.toNat ≤ 1 := by
  rcases once p member with none | one
  · simp [none]
  · simp [one]

/-- What is said of addresses and counts alone survives what keeps both. -/
theorem forall_heard_map {f : Property → Property} (keeps : ∀ p, (f p).uri = p.uri)
    (keepsCount : ∀ p, (f p).listeners = p.listeners) {P : String → UInt32 → Prop} :
    (∀ p ∈ (tree.map f).allProperties, P p.uri p.listeners) ↔
      ∀ p ∈ tree.allProperties, P p.uri p.listeners := by
  rw [allProperties_map, List.forall_mem_map]
  simp only [keeps, keepsCount]

theorem unvalued_setValue (tree : Tree) (uri value : String) :
    (tree.update uri (·.setValue value)).map Property.unvalued =
      tree.map Property.unvalued := by
  apply map_update
  intro p
  rfl

theorem forall_heard_setValue {uri value : String} {P : String → UInt32 → Prop} :
    (∀ p ∈ (tree.update uri (·.setValue value)).allProperties, P p.uri p.listeners) ↔
      ∀ p ∈ tree.allProperties, P p.uri p.listeners := by
  rw [← forall_heard_map Property.uri_unvalued Property.listeners_unvalued, unvalued_setValue,
    forall_heard_map Property.uri_unvalued Property.listeners_unvalued]

theorem heardWithin_setValue {uri value : String} :
    (tree.update uri (·.setValue value)).HeardWithin uris ↔ tree.HeardWithin uris :=
  forall_heard_setValue (P := fun uri count => count = 0 ∨ count = 1 ∧ uri ∈ uris)

theorem uncounted_setListeners (tree : Tree) (uri : String) (count : UInt32) :
    (tree.update uri (·.setListeners count)).map Property.uncounted =
      tree.map Property.uncounted := by
  apply map_update
  intro p
  rfl

end Tree

namespace Service

theorem uncounted_carry (tree : Tree) (properties : List Property) :
    (carry tree properties).map Property.uncounted = tree.map Property.uncounted := by
  rw [carry]
  induction properties.filter (·.listeners ≠ 0) generalizing tree with
  | nil => rfl
  | cons p rest ih =>
      rw [List.foldl_cons, ih, Tree.uncounted_setListeners]

end Service

end StoryMarkers
