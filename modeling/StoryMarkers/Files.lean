set_option autoImplicit false

namespace StoryMarkers

inductive ReadFault where
  | missing
  | isDirectory
  | notDirectory
  | nameTooLong
  | zeroInName
  | notText
  /-- Whatever else the system gives as a reason. -/
  | other (reason : String)
deriving DecidableEq, Repr

structure ReadError where
  path : String
  fault : ReadFault
deriving DecidableEq, Repr

def ReadFault.message : ReadFault → String
  | .missing => "No such file or directory (os error 2)"
  | .isDirectory => "Is a directory (os error 21)"
  | .notDirectory => "Not a directory (os error 20)"
  | .nameTooLong => "File name too long (os error 36)"
  | .zeroInName => "file name contained an unexpected NUL byte"
  | .notText => "stream did not contain valid UTF-8"
  | .other reason => reason

def ReadError.message (e : ReadError) : String :=
  "failed to read " ++ e.path ++ ": " ++ e.fault.message

/-- The files below the working directory, under the names that lead to them. -/
structure Files where
  entries : List (List String × ByteArray) := []

namespace Files

/-- Names are separated by slashes. -/
def components (path : String) : List String := (path.toList.splitOn '/').map String.ofList

def ofList (files : List (String × ByteArray)) : Files :=
  ⟨files.map fun (path, bytes) => (components path, bytes)⟩

/-- A place on the way along a path. Nothing is known of what lies outside the directory. -/
inductive Place where
  | outside
  | directory (path : List String)
  | file (bytes : ByteArray)

/-- The bytes that a name between slashes may take. -/
def maxName : Nat := 255

/-- The bytes that a whole path may take. -/
def maxPath : Nat := 4095

/-- One name further. An empty name and a dot stay where they are, two dots go up. -/
def step (files : Files) (place : Place) (name : String) : Except ReadFault Place :=
  match place with
  | .file _ => .error .notDirectory
  | .outside =>
    if name = "" ∨ name = "." ∨ name = ".." then .ok .outside
    else if maxName < name.utf8ByteSize then .error .nameTooLong
    else .error .missing
  | .directory path =>
    if name = "" ∨ name = "." then .ok (.directory path)
    else if name = ".." then
      .ok (if path.isEmpty then .outside else .directory path.dropLast)
    else if maxName < name.utf8ByteSize then .error .nameTooLong
    else
      let inside := path ++ [name]
      match files.entries.lookup inside with
      | some bytes => .ok (.file bytes)
      | none =>
        if files.entries.any fun (entry, _) => inside.isPrefixOf entry then
          .ok (.directory inside)
        else .error .missing

/-- A path from the root of the file system leads outside the directory. -/
def resolve (files : Files) (path : String) : Except ReadFault Place :=
  if path.toList.contains '\x00' then .error .zeroInName
  else if maxPath < path.utf8ByteSize then .error .nameTooLong
  else if path = "" then .error .missing
  else
    match components path with
    | "" :: names => names.foldlM files.step .outside
    | names => names.foldlM files.step (.directory [])

/-- The bytes of a file as text. -/
def ofBytes (path : String) (bytes : ByteArray) : Except ReadError String :=
  match String.fromUTF8? bytes with
  | some text => .ok text
  | none => .error ⟨path, .notText⟩

def read (files : Files) (path : String) : Except ReadError String :=
  match files.resolve path with
  | .error fault => .error ⟨path, fault⟩
  | .ok (.file bytes) => ofBytes path bytes
  | .ok _ => .error ⟨path, .isDirectory⟩

end Files

end StoryMarkers
