import StoryMarkers.Tree.Basic

/-!
Finding owners and properties by their dotted address.

Siblings may share an identifier. An address leads along the first path of owners, in tree order,
on which every name fits and the last owner passes the test; a path that fails further down is
left for the next one. Reading and writing use the same slot.
-/

set_option autoImplicit false

namespace StoryMarkers

/-- The place of a property: indices of owners from the root down, and an index in the last one. -/
structure Slot where
  path : List Nat
  index : Nat
deriving DecidableEq, Repr

namespace Owner

/-- Takes a step with an index at the end of the path, and takes the index away again if the step
leads nowhere. -/
def onto (index : Nat) (step : StateM (Array Nat) Bool) : StateM (Array Nat) Bool := do
  modify (·.push index)
  let found ← step
  unless found do modify Array.pop
  pure found

/-- Follows the names from some owners down, and says whether they lead to an owner that passes the
test. All branches share one path, which holds the indices of the owners on the way. -/
def walk (accept : Owner → Bool) : List String → List Owner → StateM (Array Nat) Bool
  | [], _ => pure false
  | name :: names, owners =>
    owners.zipIdx.anyM fun (owner, index) =>
      if owner.identifier ≠ name then pure false
      else onto index
        (if names.isEmpty then pure (accept owner) else walk accept names owner.subowners)

/-- The first path that spells the names and ends in an owner that passes the test. -/
def descend (accept : Owner → Bool) (names : List String) (owners : List Owner) :
    Option (List Nat) :=
  match (walk accept names owners).run #[] with
  | (true, path) => some path.toList
  | (false, _) => none

/-- The owner at the end of a path. -/
def at? : List Nat → List Owner → Option Owner
  | [], _ => none
  | [index], owners => owners[index]?
  | index :: path, owners => owners[index]?.bind fun owner => at? path owner.subowners

/-- Changes the owner at the end of a path. -/
def modifyAt (change : Owner → Owner) : List Nat → List Owner → List Owner
  | [], owners => owners
  | [index], owners => owners.modify index change
  | index :: path, owners =>
    owners.modify index fun owner =>
      { owner with subowners := modifyAt change path owner.subowners }

/-- The first property of this owner with the given last name. -/
def propertyIndex? (owner : Owner) (name : String) : Option Nat :=
  owner.properties.findIdx? (·.answersTo name)

end Owner

namespace Tree

def ownerPath? (tree : Tree) (uri : String) : Option (List Nat) :=
  Owner.descend (fun _ => true) (Uri.segments uri) tree.subowners

def owner? (tree : Tree) (uri : String) : Option Owner :=
  (tree.ownerPath? uri).bind fun path => Owner.at? path tree.subowners

/-- Where an address leads; one without a dot leads to the properties of the root. -/
def slot? (tree : Tree) (uri : String) : Option Slot :=
  let name := Uri.name uri
  match Uri.owners uri with
  | [] => (tree.properties.findIdx? (·.answersTo name)).map (Slot.mk [])
  | names =>
    (Owner.descend (fun owner => owner.properties.any (·.answersTo name)) names tree.subowners).bind
      fun path => (Owner.at? path tree.subowners).bind fun owner =>
        (owner.propertyIndex? name).map (Slot.mk path)

/-- The property in a slot. -/
def get? (tree : Tree) (slot : Slot) : Option Property :=
  match slot.path with
  | [] => tree.properties[slot.index]?
  | path => (Owner.at? path tree.subowners).bind fun owner => owner.properties[slot.index]?

/-- Changes the property in a slot. -/
def modify (tree : Tree) (slot : Slot) (change : Property → Property) : Tree :=
  match slot.path with
  | [] => { tree with properties := tree.properties.modify slot.index change }
  | path =>
    { tree with
      subowners := Owner.modifyAt
        (fun owner => { owner with properties := owner.properties.modify slot.index change })
        path tree.subowners }

def find? (tree : Tree) (uri : String) : Option Property :=
  (tree.slot? uri).bind tree.get?

/-- Changes the property that an address leads to; the tree stays as it is if there is none. -/
def update (tree : Tree) (uri : String) (change : Property → Property) : Tree :=
  match tree.slot? uri with
  | some slot => tree.modify slot change
  | none => tree

end Tree

end StoryMarkers
