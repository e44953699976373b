import TableClient.Log.Entry
import TableClient.Session.Directory

/-!
# The files of the log

The files of the log are opened in its directory by their full paths, in which no double dot is
left. A path such as `errors.log/..` therefore creates a directory that is then found where a file
belongs, and a path that is just short enough for a directory can be too long for the files in it.

## Main definitions

* `TableClient.Session.openFile`, `TableClient.Session.openFiles` — opening one file, and all.
* `TableClient.Session.prepareLog` — creating the directory of the log and opening its files.
-/

set_option relaxedAutoImplicit false
set_option autoImplicit false

namespace TableClient.Session

/-- The files of the log in the order in which they are opened. -/
def logFiles : List Log.File := [.requests, .system, .errors]

/-- The bytes in the path of the working directory, which is taken to be a short one. -/
def workingPathLength : Nat := 16

/-- The bytes in the full path of a place. -/
def Surroundings.pathLength (s : Surroundings) (p : Place) : Nat :=
  p.down.foldl (fun length name => length + 1 + name.length)
    (if s.rooted then 0 else workingPathLength)

/-- Succeeds when a file can be opened in a directory. -/
def openFile (s : Surroundings) (d : Directory) (name : Name) : Except DirectoryFault Unit :=
  let p := d.place.child name
  if maxPathLength < s.pathLength p then .error .tooLong
  else if d.created.contains p || s.standingAt p == .directory then .error .fileOccupied
  else .ok ()

/-- Succeeds when the files of the log can be opened in a directory. -/
def openFiles (s : Surroundings) (d : Directory) : Except DirectoryFault Unit :=
  logFiles.forM fun f => openFile s d (Name.ofString f.name)

/-- Succeeds when a log can be kept in the directory of a path. -/
def prepareLog (file : Config.FileContent) (path : Path) : Except DirectoryFault Unit := do
  let s := Surroundings.ofPath file path
  openFiles s (← createDirectory s path)

end TableClient.Session
