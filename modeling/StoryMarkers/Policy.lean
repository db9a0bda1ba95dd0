import StoryMarkers.Decimal.Layout

set_option autoImplicit false

namespace StoryMarkers

structure Policy where
  /-- What is divided by the distance to tell how well a label can be read. -/
  labelDistanceScale : Float := 1e11
  labelThreshold : Float := 0.04
  sizeFactor : Float := 0.1
  minSize : Float := 1.5
  maxSize : Float := 3.0
  infoRadiusThreshold : Float := 25.0

/-- A range of sizes that holds no size, or whose ends are not numbers. -/
structure PolicyError where
  minSize : Float
  maxSize : Float

def PolicyError.message (e : PolicyError) : String :=
  "invalid marker policy: min_size " ++ Decimal.plain e.minSize ++ " exceeds max_size " ++
    Decimal.plain e.maxSize

namespace Policy

def validate (policy : Policy) : Except PolicyError Unit :=
  if policy.minSize ≤ policy.maxSize then .ok () else .error ⟨policy.minSize, policy.maxSize⟩

/-- The lower bound is applied last, so it wins where the two bounds exclude each other. -/
def size (policy : Policy) (radius : Float) : Float :=
  let scaled := radius * policy.sizeFactor
  let bounded := if policy.maxSize ≤ scaled then policy.maxSize else scaled
  if bounded ≤ policy.minSize then policy.minSize else bounded

def showsInfo (policy : Policy) (radius : Float) : Bool := policy.infoRadiusThreshold < radius

def showsLabel (policy : Policy) (distance : Float) : Bool :=
  policy.labelThreshold < policy.labelDistanceScale / distance

end Policy

end StoryMarkers
