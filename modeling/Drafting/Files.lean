import Drafting.Fault
import Drafting.Machine

/-!
# Paths and the file system

Drawings are saved under a path that the caller gives, relative to the
server's working directory or absolute.  `PathName.parse` reads a path the
way the file system API normalises it: empty components and `.` components
vanish, `..` stays, and a path of nothing is `.`.

Before saving, the directory that will hold the file is created with all
its missing parents.  `Disk` is what the server knows of the file system:
the absolute name of its working directory, where it stands, the machine from
its root, and the working directory's own tree.
`Disk.makeDirs` follows the creation one call at a time: a call creates the
last component when everything before it is a directory, fails for a missing
component so that the parent is created first and the call repeated, and
otherwise reports the first obstacle, which is an error only when the path is
not a directory after all.  The creations of missing parents nest, each holding
a frame of the call stack while its parent is made, and a path that needs more
of them than the stack has room for fails before anything is made.

The kernel refuses a path of `pathMax` bytes or more and a component longer
than `nameMax` bytes as too long; it follows symbolic links, walks `..` from
where a link led and from the root back to the root, and lets a directory of a
pseudo file system refuse a new entry (`Machine.layout`).  The working directory
is a fresh directory in the machine's directory for temporary files, so `..`
from it leads there.
-/

namespace Drafting

/-- A path as the file system API normalises it. -/
structure PathName where
  /-- `""` for a relative path, `"/"` or `"//"` for an absolute one. -/
  root : String
  /-- The components, without empty ones and without `.`. -/
  parts : List String

namespace PathName

/-- Reads a path. -/
def parse (s : String) : PathName :=
  let cs := s.toList
  let root :=
    match cs with
    | '/' :: '/' :: c :: _ => if c == '/' then "/" else "//"
    | ['/', '/'] => "//"
    | '/' :: _ => "/"
    | _ => ""
  let parts := (s.splitOn "/").filter fun p => !p.isEmpty && p != "."
  ⟨root, parts⟩

/-- Whether the path starts at the root. -/
def rooted (p : PathName) : Bool := !p.root.isEmpty

/-- The path as text; a relative path of no components is `.`. -/
def render (p : PathName) : String :=
  if p.root.isEmpty && p.parts.isEmpty then "." else p.root ++ "/".intercalate p.parts

/-- The path without its last component; `.` and the root are their own parents. -/
def parent (p : PathName) : PathName := ⟨p.root, p.parts.dropLast⟩

/-- The path as an absolute name, under `cwd` when it is relative. -/
def absolute (p : PathName) (cwd : String) : String :=
  if p.rooted then p.render
  else if p.parts.isEmpty then cwd
  else cwd ++ "/" ++ "/".intercalate p.parts

end PathName

/-- The file system as the server knows it. -/
structure Disk where
  /-- The absolute name of the working directory. -/
  cwd : String
  /-- The components from the root of the directory that holds the working directory. -/
  home : List String
  /-- The machine from its root. -/
  root : Entry
  /-- The working directory, with everything in it. -/
  work : Entry

/-- Where a walk stands: whether it set out from the root or from the working
directory, and the directories it went down through from there, innermost
first, each with its name. -/
structure Cursor where
  /-- Set out from the root. -/
  rooted : Bool
  /-- The directories gone through, innermost first. -/
  trail : List (String × Entry)

/-- What one attempt to create a directory ends with. -/
inductive MakeDir where
  /-- The directory was created; the file system as it is now. -/
  | made (d : Disk)
  /-- An error number: 1 or 13 for a directory that takes no new entries, 2 for a
  missing component, 17 for an existing entry, 20 for a component that is not a
  directory, 36 for a name too long. -/
  | refused (code : Nat)

namespace Disk

/-- The longest name a directory entry may have, in bytes. -/
def nameMax : Nat := 255

/-- The kernel takes paths shorter than this many bytes: the limit counts the NUL
that ends the path. -/
def pathMax : Nat := 4096

/-- The directory a walk sets out from. -/
def start (d : Disk) (rooted : Bool) : Entry := if rooted then d.root else d.work

/-- The directory a cursor stands in. -/
def here (d : Disk) (c : Cursor) : Entry :=
  match c.trail with
  | (_, e) :: _ => e
  | [] => d.start c.rooted

/-- The cursor one directory further down, at `name`, when that is a directory. -/
def down (d : Disk) (c : Cursor) (name : String) : Option Cursor :=
  match (d.here c).find? name with
  | some (.dir refusal entries) => some ⟨c.rooted, (name, .dir refusal entries) :: c.trail⟩
  | _ => none

/-- The cursor at a place every component of which is a directory. -/
def locate (d : Disk) (p : Place) : Option Cursor :=
  p.parts.foldl (fun c name => c.bind fun c => d.down c name) (some ⟨p.rooted, []⟩)

/-- The directory that holds where a cursor stands: above the working directory
lies its home; the root holds itself. -/
def up (d : Disk) (c : Cursor) : Cursor :=
  match c.trail with
  | _ :: rest => ⟨c.rooted, rest⟩
  | [] => if c.rooted then c else (d.locate ⟨true, d.home⟩).getD ⟨true, []⟩

/-- Walks components from a cursor, each of which must lead to a directory,
through symbolic links; answers where the walk ends or the error number of the
first obstacle. -/
def walk (d : Disk) : Cursor → List String → Except Nat Cursor
  | c, [] => .ok c
  | c, name :: rest =>
    if name == ".." then walk d (d.up c) rest
    else if name.utf8ByteSize > nameMax then .error 36
    else
      match (d.here c).find? name with
      | some .file => .error 20
      | some (.link target) =>
        match d.locate target with
        | some c' => walk d c' rest
        | none => .error 2
      | some e => walk d ⟨c.rooted, (name, e) :: c.trail⟩ rest
      | none => .error 2

/-- Whether the kernel takes the path at all. -/
def fitsPath (p : PathName) : Bool := p.render.utf8ByteSize < pathMax

/-- Whether a path names a directory. -/
def isDir (d : Disk) (p : PathName) : Bool :=
  fitsPath p &&
    match d.walk ⟨p.rooted, []⟩ p.parts with
    | .ok _ => true
    | .error _ => false

/-- The disk with an empty directory of this name where the cursor stands. -/
def create (d : Disk) (c : Cursor) (name : String) : Disk :=
  let path := (c.trail.map (·.1)).reverse ++ [name]
  if c.rooted then { d with root := d.root.put path .empty }
  else { d with work := d.work.put path .empty }

/-- One attempt to create the directory a path names. -/
def makeOne (d : Disk) (p : PathName) : MakeDir :=
  if !fitsPath p then .refused 36
  else
    match p.parts.getLast?, d.walk ⟨p.rooted, []⟩ p.parts.dropLast with
    | none, _ => .refused 17
    | some _, .error code => .refused code
    | some last, .ok c =>
      if last == ".." then .refused 17
      else if last.utf8ByteSize > nameMax then .refused 36
      else
        let dir := d.here c
        match dir.find? last, dir.refusal? with
        | some _, _ => .refused 17
        | none, some code => .refused code
        | none, none => .made (d.create c last)

/-- The fault for a refused creation of a path. -/
def refusal (code : Nat) (p : PathName) : Fault := .fileSystem code p.render

/-- Creates the directory of a path with all missing parents, with room for `n`
creations inside one another: the disk as it is then, and the fault that
stopped the creation, if one did.  What was made before a fault stays made. -/
def makeDirsWithin : Nat → Disk → PathName → Disk × Option Fault
  | 0, d, _ => (d, some .tooDeep)
  | n + 1, d, p =>
    match d.makeOne p with
    | .made d' => (d', none)
    | .refused 2 =>
      if p.parts.isEmpty then (d, some (refusal 2 p))
      else
        match makeDirsWithin n d p.parent with
        | (d', some f) => (d', some f)
        | (d', none) =>
          match d'.makeOne p with
          | .made d'' => (d'', none)
          | .refused 2 => (d', some (refusal 2 p))
          | .refused code => (d', if d'.isDir p then none else some (refusal code p))
    | .refused code => (d, if d.isDir p then none else some (refusal code p))

/-- Creates the directory a path names with all missing parents, with room on
the call stack for `room` creations inside one another: the disk with what was
created, and the fault that stopped the creation, if one did.  A path with a
NUL character is refused outright. -/
def makeDirs (d : Disk) (room : Nat) (p : PathName) : Disk × Option Fault :=
  if p.parts.any (·.contains (Char.ofNat 0)) then (d, some .nullByte)
  else makeDirsWithin room d p

end Disk

/-- A working directory holding these regular files, made for the server in the
machine's directory for temporary files, before any directory is created. -/
def Disk.ofWorkspace (cwd : String) (files : List String) : Disk :=
  ⟨cwd, ["tmp"], Machine.root, .dir none (files.map fun name => (name, .file))⟩

end Drafting
