import TableClient.Config.Loading
import TableClient.Session.Path

/-!
# The directory of the log

The directory is given as a path and created when it is missing, together with the directories
above it. A file can stand in the way, as the directory itself or as a part of the path to it; in
the working directory that can only be the settings file.

A path is followed name by name, and whatever is missing is created on the way, so `a/../b` creates
`a` as well.

## Main definitions

* `TableClient.Session.Place`, `TableClient.Session.Surroundings` — places, and what stands there.
* `TableClient.Session.createDirectory` — the directory of a path, and what was created for it.
-/

set_option relaxedAutoImplicit false
set_option autoImplicit false

namespace TableClient.Session

/-- Why the directory of the log cannot be used. -/
inductive DirectoryFault where
  /-- A file stands in its place. -/
  | occupied
  /-- The path leads through a file. -/
  | throughFile
  /-- A name in the path, or the path itself, is too long. -/
  | tooLong
  /-- A directory stands in the place of a file of the log. -/
  | fileOccupied
  /-- Too many directories in a row are missing. -/
  | tooDeep
  /-- The path holds the null character. -/
  | nullCharacter
  /-- The path has a surrogate that stands for no byte. -/
  | notEncodable
deriving DecidableEq

/-- The longest name of a file, in bytes. -/
def maxNameLength : Nat := 255

/-- The longest path, in bytes. -/
def maxPathLength : Nat := 4095

/-- The largest number of directories that are created in a row. -/
def maxMissing : Nat := 984

/-! ### Places -/

/-- A place: a number of directories up from where paths begin, and names down from there, the
innermost one first. -/
structure Place where
  up : Nat
  down : List Name
deriving DecidableEq

/-- The place where paths begin. -/
def Place.here : Place := ⟨0, []⟩

/-- The place of a name in a place. -/
def Place.child (p : Place) (name : Name) : Place := { p with down := name :: p.down }

/-- What stands at a place. -/
inductive Standing where
  | nothing
  | directory
  | file
deriving DecidableEq

/-- What a path meets: whether it begins at the root, where nothing is above, or at the working
directory, and what stands where. -/
structure Surroundings where
  rooted : Bool
  standing : List (Place × Standing)

namespace Surroundings

/-- The files that are sure to stand below the root, by their directories: devices, and what names
users and hosts. -/
def rootFiles : Keyed String (List String) :=
  [("dev", ["null", "zero", "full", "random", "urandom", "tty"]),
   ("etc", ["passwd", "group", "hosts"]), ("tmp", []), ("usr", []), ("var", [])]

/-- The surroundings of paths from the root. -/
def root : Surroundings :=
  ⟨true, rootFiles.flatMap fun (directory, files) =>
    let p := Place.here.child (Name.ofString directory)
    (p, .directory) :: files.map fun file => (p.child (Name.ofString file), .file)⟩

/-- The surroundings of paths from the working directory, which holds only the settings file. -/
def working (file : Config.FileContent) : Surroundings :=
  let standing : Standing := match file with
    | .absent => .nothing
    | .directory _ => .directory
    | .bytes _ _ => .file
  ⟨false, [(Place.here.child (Name.ofString Config.fileName), standing)]⟩

/-- The surroundings of a path. -/
def ofPath (file : Config.FileContent) (path : Path) : Surroundings :=
  if path.isRooted then root else working file

/-- What stands at a place before anything is created. -/
def standingAt (s : Surroundings) (p : Place) : Standing :=
  if p.down.isEmpty then .directory
  else ((s.standing.find? (·.1 == p)).map (·.2)).getD .nothing

/-- The place above a place. -/
def parent (s : Surroundings) (p : Place) : Place :=
  match p.down with
  | [] => if s.rooted then p else { p with up := p.up + 1 }
  | _ :: names => { p with down := names }

/-- Where one name leads from a place. -/
def enter (s : Surroundings) (p : Place) (name : Name) : Except DirectoryFault Place :=
  if name = Name.above then .ok (s.parent p)
  else if maxNameLength < name.length then .error .tooLong
  else .ok (p.child name)

/-- The number of names that are left from the first one on that leads to nothing. -/
def missingFrom (s : Surroundings) (p : Place) : List Name → Nat
  | [] => 0
  | name :: rest =>
    match s.enter p name with
    | .ok q => if s.standingAt q = .nothing then rest.length + 1 else s.missingFrom q rest
    | .error _ => 0

end Surroundings

/-! ### Directories -/

/-- A directory, and the places where directories were created on the way to it. -/
structure Directory where
  place : Place
  created : List Place

/-- Follows names from a directory and creates what is missing. Until something was created, a file
with more names after it ends the path there; after that, each directory on the way is asked for
by itself, and a file is in its place. -/
def createFrom (s : Surroundings) (d : Directory) : List Name → Except DirectoryFault Directory
  | [] => .ok d
  | name :: rest => do
    let p ← s.enter d.place name
    match s.standingAt p with
    | .directory => createFrom s { d with place := p } rest
    | .file => throw (if rest.isEmpty || !d.created.isEmpty then .occupied else .throughFile)
    | .nothing => createFrom s ⟨p, p :: d.created⟩ rest

/-- The directory of a path, which is created when it is missing. -/
def createDirectory (s : Surroundings) (path : Path) : Except DirectoryFault Directory :=
  match path.bytes?, path.names? with
  | some bytes, some names =>
    if path.hasNull then .error .nullCharacter
    else if maxPathLength < bytes.length then .error .tooLong
    else if maxMissing < s.missingFrom .here names then .error .tooDeep
    else createFrom s ⟨.here, []⟩ names
  | _, _ => .error .notEncodable

end TableClient.Session
