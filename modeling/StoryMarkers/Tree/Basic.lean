import StoryMarkers.Property.Basic
import StoryMarkers.Text.Blank

set_option autoImplicit false

namespace StoryMarkers

structure Owner where
  identifier : String
  tags : List String := []
  subowners : List Owner := []
  properties : List Property := []
deriving Repr

structure Tree where
  subowners : List Owner := []
  properties : List Property := []
deriving Repr

/-- Whether a tag contains `needle` anywhere. -/
def Owner.hasTag (owner : Owner) (needle : String) : Bool :=
  owner.tags.any fun tag => Text.occursIn needle.toList tag.toList

mutual

/-- The properties of an owner and of all owners below it, its own before theirs. -/
def Owner.allProperties : Owner → List Property
  | ⟨_, _, subowners, properties⟩ => properties ++ Owner.propertiesOf subowners

def Owner.propertiesOf : List Owner → List Property
  | [] => []
  | owner :: rest => owner.allProperties ++ Owner.propertiesOf rest

end

namespace Tree

def isEmpty (tree : Tree) : Bool := tree.subowners.isEmpty && tree.properties.isEmpty

def rootsNamed (tree : Tree) (identifier : String) : List Owner :=
  tree.subowners.filter fun owner => owner.identifier = identifier

/-- Every property of the tree, those of the root first. -/
def allProperties (tree : Tree) : List Property :=
  tree.properties ++ Owner.propertiesOf tree.subowners

end Tree

end StoryMarkers
