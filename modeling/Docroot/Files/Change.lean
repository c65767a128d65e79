import Docroot.Files.Tree

/-!
# Changing file trees

The changes a server makes to its files are those of its logs: making the directories a log file
is in, opening it, and putting lines at its end. Besides, whole nodes can be put into a tree and
taken out of it, which is how trees are built.

What the server makes is its own, with every right. A new name needs the right to write to the
directory it is put into, and a file that is there is opened only if it may be written to; once it
is open, its rights are not asked for again.
-/

namespace Docroot.Files

/-! ## 1. Nodes -/

/-- The children with `child` in place of the one of that name, or at the end. -/
def putChild (name : Bytes) (child : Node) : List (Bytes × Node) → List (Bytes × Node)
  | [] => [(name, child)]
  | (n, c) :: rest => if n = name then (name, child) :: rest else (n, c) :: putChild name child rest

namespace Node

/-- The tree with `child` at a place whose directory exists; otherwise the tree as it is. -/
def put (n : Node) (child : Node) : Place → Node
  | [] => child
  | name :: rest =>
    match n with
    | .directory children rights =>
      match children.lookup name with
      | some c => .directory (putChild name (c.put child rest) children) rights
      | none => if rest = [] then .directory (putChild name child children) rights else n
    | _ => n

/-- The tree without what is at a place. -/
def erase (n : Node) : Place → Node
  | [] => n
  | name :: rest =>
    match n with
    | .directory children rights =>
      if rest = [] then .directory (children.filter (·.1 ≠ name)) rights
      else match children.lookup name with
        | some c => .directory (putChild name (c.erase rest) children) rights
        | none => n
    | _ => n

end Node

namespace FileSystem

/-- The file system with a node at a place. -/
def putAt (fs : FileSystem) (place : Place) (n : Node) : FileSystem :=
  { fs with top := fs.top.put n place }

/-- Is there a directory at the place that new names may be put into? -/
def mayAdd (fs : FileSystem) (place : Place) : Bool :=
  match fs.top.at? place with
  | some (.directory _ rights) => rights.write
  | _ => false

/-- Where the last name of a path stands. -/
structure Entry where
  /-- The directory it is in. -/
  place : Place
  /-- The name; none for the root. -/
  name? : Option Bytes
  /-- How many links are left to follow from there. -/
  links : Nat

/-- Follows a path from `start` up to its last name, through at most `links` links. The directory of
    that name is to be one that may be searched, which is what a last `.` asks for. -/
def entryOf (fs : FileSystem) (links : Nat) (start : Place) (p : Path) : Except IoError Entry :=
  match p.names.getLast? with
  | none => .ok ⟨start, none, links⟩
  | some name =>
    match walk fs.top true links start (p.names.dropLast ++ [[Path.dot]]) with
    | .error e => .error e
    | .ok (place, left) => .ok ⟨place, some name, left⟩

/-- The way to a last name adds no links. -/
theorem links_entryOf_le {fs : FileSystem} {links : Nat} {start : Place} {p : Path} {e : Entry}
    (h : fs.entryOf links start p = .ok e) : e.links ≤ links := by
  unfold entryOf at h
  split at h
  · cases h
    exact Nat.le_refl links
  · split at h
    · cases h
    · next hw =>
      cases h
      exact walk_links_le hw

/-- A last name that is a way and not a name. -/
def isDots (name : Bytes) : Bool := name == [Path.dot] || name == [Path.dot, Path.dot]

/-! ## 2. Directories -/

/-- **The file system with a new directory.** There must be nothing of that name, not even a link
    that leads nowhere. -/
def makeDirectory (fs : FileSystem) (p : Path) : Except IoError FileSystem :=
  match pathFault p with
  | some e => .error e
  | none =>
    match fs.entryOf maxLinks (fs.start p) p with
    | .error e => .error e
    | .ok ⟨_, none, _⟩ => .error .exists_
    | .ok ⟨place, some name, _⟩ =>
      if isDots name then .error .exists_
      else if maxName < name.length then .error .nameTooLong
      else match fs.top.at? (place ++ [name]) with
        | some _ => .error .exists_
        | none =>
          if fs.mayAdd place then .ok (fs.putAt (place ++ [name]) (.directory []))
          else .error .accessDenied

/-- The outcome of making a directory; where it could not be made, one that is there will do. -/
def orThere (fs : FileSystem) (p : Path) (made : Except IoError FileSystem) :
    FileSystem × Except IoError Unit :=
  match made with
  | .ok fs => (fs, .ok ())
  | .error e => (fs, if fs.isDirectory p then .ok () else .error e)

/-- Makes a directory and those above it that are missing; `depth` bounds how many. -/
def makeDirectoriesTo (fs : FileSystem) : Nat → Path → FileSystem × Except IoError Unit
  | 0, _ => (fs, .error .nameTooLong)
  | depth + 1, p =>
    if p = [] then (fs, .ok ())
    else match fs.makeDirectory p with
      | .error (.os 2) =>
        match p.parent? with
        | none => (fs, .error (.custom .uncategorized "failed to create whole tree".toList))
        | some parent =>
          match makeDirectoriesTo fs depth parent with
          | (fs, .ok ()) => fs.orThere p (fs.makeDirectory p)
          | failed => failed
      | made => fs.orThere p made

/-- **Makes a directory and all directories above it**, or says why not; those that were made on the
    way stay. -/
def makeDirectories (fs : FileSystem) (p : Path) : FileSystem × Except IoError Unit :=
  fs.makeDirectoriesTo (p.length + 1) p

/-! ## 3. Files that grow -/

/-- Opens the file that a path from `start` leads to, making it if it is missing; a link that leads
    to nothing is followed to where the file is to be. All links on the way, those to the directory
    and those at the end, are of the one number `links`. -/
def openAt (fs : FileSystem) (now : Time.Instant) (links : Nat) (start : Place) (p : Path) :
    Except IoError (FileSystem × Place) :=
  match _h : fs.entryOf links start p with
  | .error e => .error e
  | .ok ⟨_, none, _⟩ => .error .isDirectory
  | .ok ⟨place, some name, left⟩ =>
    if isDots name ∨ p.getLast? = some Path.slash then .error .isDirectory
    else if maxName < name.length then .error .nameTooLong
    else
      let full := place ++ [name]
      match fs.top.at? full with
      | none =>
        if fs.mayAdd place then .ok (fs.putAt full (.file (.bytes []) now), full)
        else .error .accessDenied
      | some (.link target) =>
        if left = 0 then .error .linkLoop
        else openAt fs now (left - 1) (if Path.isAbsolute target then [] else place) target
      | some (.directory _ _) => .error .isDirectory
      | some (.file _ _ rights) => if rights.write then .ok (fs, full) else .error .accessDenied
      | some .pipe => .ok (fs, full)
  termination_by links
  decreasing_by
    have : left ≤ links := links_entryOf_le _h
    omega

/-- **Opens a file for appending**, making it if it is missing: the file system then, and the place
    of the file. -/
def openForAppend (fs : FileSystem) (now : Time.Instant) (p : Path) :
    Except IoError (FileSystem × Place) :=
  match pathFault p with
  | some e => .error e
  | none => fs.openAt now maxLinks (fs.start p) p

/-- **The file system with octets put at the end of a file.** What is no file with contents takes
    nothing. -/
def append (fs : FileSystem) (place : Place) (data : Bytes) : FileSystem :=
  match fs.top.at? place with
  | some (.file (.bytes b) modified rights) =>
    fs.putAt place (.file (.bytes (b ++ data)) modified rights)
  | _ => fs

end FileSystem

end Docroot.Files
