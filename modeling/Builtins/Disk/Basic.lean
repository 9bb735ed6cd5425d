import Builtins.Disk.Path
import Builtins.Fault

/-!
# Disks

A disk holds files, directories and symbolic links. A path may take detours through dots and links;
following it leads to one place, whose plain path is the canonical one.

* `Disk.locate` follows a path.
* `Disk.canonicalFile?` is the canonical path of a file.
* `Disk.read` gives the content of a file.
* `Disk.write`, `Disk.makeDirectory`, `Disk.link` and `Disk.remove` change a disk.
-/

namespace Builtins

/-- What is under a name. -/
inductive DiskEntry where
  | file (content : Bytes)
  | directory
  | link (target : DiskPath)
deriving DecidableEq, Repr

/-- The entries of a disk under their places, each given by the names from there to the top. The top is
a directory. -/
structure Disk where
  entries : List (List Bytes × DiskEntry)

namespace Disk

def empty : Disk := ⟨[]⟩

/-- The most links that are followed on the way to a place. -/
def linkLimit : Nat := 40

def nameLimit : Nat := 255

def pathLimit : Nat := 4095

def at? (d : Disk) (place : List Bytes) : Option DiskEntry :=
  if place.isEmpty then some .directory else d.entries.lookup place

/-- Follows steps from a directory to a place, and gives what is there. Only the last step may lead to a place where nothing is. -/
def follow (d : Disk) (links : Nat) (place : List Bytes) (steps : List Bytes) :
    Except ReadFault (List Bytes × Option DiskEntry) :=
  match steps with
  | [] => .ok (place, some .directory)
  | step :: rest =>
    if step = dot then d.follow links place rest
    else if step = dotDot then d.follow links place.tail rest
    else if nameLimit < step.length then .error .nameTooLong
    else
      match d.at? (step :: place) with
      | none => if rest.isEmpty then .ok (step :: place, none) else .error .absent
      | some .directory => d.follow links (step :: place) rest
      | some (.file content) =>
        if rest.isEmpty then .ok (step :: place, some (.file content)) else .error .notADirectory
      | some (.link target) =>
        match links with
        | 0 => .error .tooManyLinks
        | links + 1 =>
          d.follow links (if isAbsolutePath target then [] else place) (pathSteps target ++ rest)
termination_by (links, steps.length)

/-- The place that an absolute path leads to, and what is there. -/
def locate (d : Disk) (path : DiskPath) : Except ReadFault (List Bytes × Option DiskEntry) :=
  if path.bytes.contains 0 then .error .invalidName
  else if pathLimit < path.bytes.length then .error .nameTooLong
  else if isAbsolutePath path then d.follow linkLimit [] (pathSteps path)
  else .error .absent

/-- The canonical path of the file that a path leads to, if it leads to one. -/
def canonicalFile? (d : Disk) (path : DiskPath) : Option DiskPath :=
  match d.locate path with
  | .ok (place, some (.file _)) => some (pathOf place)
  | _ => none

def read (d : Disk) (path : DiskPath) : Except ReadFault Bytes :=
  match d.locate path with
  | .ok (_, some (.file content)) => .ok content
  | .ok (_, some _) => .error .isADirectory
  | .ok (_, none) => .error .absent
  | .error fault => .error fault

def erase (d : Disk) (place : List Bytes) : Disk := ⟨d.entries.filter fun e => e.1 ≠ place⟩

def putAt (d : Disk) (place : List Bytes) (e : DiskEntry) : Disk :=
  ⟨(place, e) :: (d.erase place).entries⟩

/-- Makes the directories that are missing along some steps. It goes as far as these lead: not
through a file, nor through a link to nothing. -/
def makeDirectories (d : Disk) (place : List Bytes) : List Bytes → Disk
  | [] => d
  | step :: rest =>
    match d.follow linkLimit place [step] with
    | .ok (next, some .directory) => d.makeDirectories next rest
    | .ok (next, none) =>
      if next = step :: place then (d.putAt next .directory).makeDirectories next rest else d
    | _ => d

/-- Makes a directory and those above it. -/
def makeDirectory (d : Disk) (path : DiskPath) : Disk := d.makeDirectories [] (pathSteps path)

/-- Makes the directories above a path. -/
def makeParents (d : Disk) (path : DiskPath) : Disk := d.makeDirectories [] (parentSteps path)

/-- Writes a file where a path leads, through links even if nothing is there yet. A directory stays
what it is. -/
def write (d : Disk) (path : DiskPath) (content : Bytes) : Disk :=
  let d := d.makeParents path
  match d.locate path with
  | .ok (_, some .directory) => d
  | .ok (place, _) => d.putAt place (.file content)
  | .error _ => d

/-- The place that a path names, if there is one. A link that it names is not followed. -/
def namedPlace? (d : Disk) (path : DiskPath) : Option (List Bytes) :=
  match (pathSteps path).reverse with
  | [] => none
  | name :: parents =>
    if name = dot || name = dotDot then none
    else
      match d.follow linkLimit [] parents.reverse with
      | .ok (place, some .directory) => some (name :: place)
      | _ => none

/-- Makes a symbolic link where nothing is yet. It leads somewhere, so its target is not empty. -/
def link (d : Disk) (path target : DiskPath) : Disk :=
  let d := d.makeParents path
  match d.namedPlace? path with
  | some place =>
    if (d.at? place).isNone && !target.bytes.isEmpty then d.putAt place (.link target) else d
  | none => d

/-- Removes a file or a link. A directory stays. -/
def remove (d : Disk) (path : DiskPath) : Disk :=
  match d.namedPlace? path with
  | some place =>
    if d.at? place = some .directory then d else d.erase place
  | none => d

end Disk

/-- Looks a file up. An absolute name is taken as it is; any other is tried in each source root in
turn. The result is the canonical path, so it does not depend on how the file was named. -/
def findInRoots (d : Disk) (roots : List DiskPath) (name : String) : Except Fault DiskPath :=
  let found :=
    if isAbsolutePath name then d.canonicalFile? name
    else roots.findSome? fun root => d.canonicalFile? (joinPath root name)
  match found with
  | some path => .ok path
  | none => .error (.fileNotFound name)

end Builtins
