set_option autoImplicit false

namespace StoryMarkers

/-- The numbers that geometry is done with: floats of single precision in the window, and rationals
where nothing is to be rounded. -/
class Scalar (α : Type) extends Add α, Sub α, Mul α, Div α, LE α, LT α, OfScientific α where
  decLE : ∀ a b : α, Decidable (a ≤ b)
  decLT : ∀ a b : α, Decidable (a < b)

namespace Scalar

variable {α : Type} [Scalar α]

instance (a b : α) : Decidable (a ≤ b) := decLE a b

instance (a b : α) : Decidable (a < b) := decLT a b

/-- The smaller of two numbers; one that cannot be compared with itself gives way. -/
def lesser (a b : α) : α := if a ≤ b ∨ ¬ b ≤ b then a else b

/-- The greater of two numbers; one that cannot be compared with itself gives way. -/
def greater (a b : α) : α := if b ≤ a ∨ ¬ b ≤ b then a else b

/-- The nearest number between two bounds; what cannot be compared stays as it is. -/
def clamp (low high x : α) : α := if x < low then low else if high < x then high else x

end Scalar

instance : Scalar Float32 where
  decLE := inferInstance
  decLT := inferInstance

end StoryMarkers
