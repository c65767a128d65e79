import Docroot.Files.Error
import Docroot.Files.Path
import Docroot.Time.Instant

/-!
# File trees

A file system is a tree of directories with files, symbolic links and pipes in it, together with
the directory where relative paths begin. Paths are followed name by name, as an operating system
does it: `.` stays, `..` goes up, a symbolic link puts its own path in front of what is left, and
at most forty links are followed. What a path leads to is the *place* of it: the names from the
root, with no links and no dots left among them.

Files and directories have rights. A name is followed through a directory only where the directory
may be searched, which a slash at the end of a path does not ask for.

Two operations look at what is at the end of a path (`stat`, and `lstat`, which does not follow a
link there), and two read it (`read` a file, `readDir` a directory). Looking needs no rights on what
is looked at; reading does.
-/

namespace Docroot.Files

open Docroot.Time (Instant)

/-! ## 1. Trees -/

/-- What a regular file holds. -/
inductive Content where
  | bytes (b : Bytes)
  /-- Every attempt to read it fails. -/
  | unreadable
  deriving DecidableEq, Repr

/-- What the server may do with a file or a directory. -/
structure Rights where
  /-- Read the octets of the file, or the names in the directory. -/
  read : Bool := true
  /-- Put octets into the file, or new names into the directory. -/
  write : Bool := true
  /-- Follow names through the directory. It says nothing of a file. -/
  search : Bool := true
  deriving DecidableEq, Repr

/-- Everything is allowed. -/
def Rights.full : Rights := {}

/-- **The octets of a file**, if it lets them be read. -/
def Content.read (content : Content) (rights : Rights) : Except IoError Bytes :=
  if rights.read = false then .error .accessDenied
  else match content with
    | .bytes b => .ok b
    | .unreadable => .error .badData

/-- A node of the tree. A directory lists its children in the order in which it yields them. -/
inductive Node where
  | file (content : Content) (modified : Instant) (rights : Rights := .full)
  | directory (children : List (Bytes × Node)) (rights : Rights := .full)
  | link (target : Path)
  | pipe

/-- Names from the root to a node. -/
abbrev Place := List Bytes

namespace Node

/-- The child of a name. -/
def child? : Node → Bytes → Option Node
  | .directory children _, name => children.lookup name
  | _, _ => none

/-- The node at a place below this one. Links are not followed. -/
def at? (n : Node) : Place → Option Node
  | [] => some n
  | name :: rest => (n.child? name).bind (·.at? rest)

end Node

/-- A file system: the tree, and the place where relative paths begin. -/
structure FileSystem where
  top : Node
  here : Place

/-! ## 2. Following paths -/

/-- The longest name and one more than the longest path. -/
def maxName : Nat := 255
/-- See `maxName`. -/
def pathLimit : Nat := 4096
/-- How many links a path may lead through. -/
def maxLinks : Nat := 40

/-- The names to follow for a path. One that ends in a slash must lead to a directory, which is
    what an empty name behind the others asks for. -/
def followNames (p : Path) : List Bytes :=
  p.names ++ (if p.getLast? = some Path.slash then [[]] else [])

/-- **The place that names lead to** from the directory at `here`, through at most `links` links,
    and how many links are left to follow then. A link at the very end is followed only if
    `followLast` says so. Every name but the empty one is looked up in the directory, or goes up from
    it, and so needs the right to search it. -/
def walk (top : Node) (followLast : Bool) (links : Nat) (here : Place) :
    List Bytes → Except IoError (Place × Nat)
  | [] => .ok (here, links)
  | name :: rest =>
    match top.at? here with
    | some (.directory children rights) =>
      if name = [] then walk top followLast links here rest
      else if rights.search = false then .error .accessDenied
      else if maxName < name.length then .error .nameTooLong
      else if name = [Path.dot] then walk top followLast links here rest
      else if name = [Path.dot, Path.dot] then walk top followLast links here.dropLast rest
      else match children.lookup name with
        | none => .error .noEntry
        | some (.link target) =>
          if rest = [] ∧ followLast = false then .ok (here ++ [name], links)
          else match links with
            | 0 => .error .linkLoop
            | links + 1 =>
              walk top followLast links (if Path.isAbsolute target then [] else here)
                (followNames target ++ rest)
        | some _ => walk top followLast links (here ++ [name]) rest
    | some _ => .error .notDirectory
    | none => .error .noEntry
  termination_by names => (links, names.length)

/-- Following names uses links up and never adds to them. -/
theorem walk_links_le {top : Node} {followLast : Bool} {links : Nat} {here place : Place}
    {names : List Bytes} {left : Nat}
    (h : walk top followLast links here names = .ok (place, left)) : left ≤ links := by
  fun_induction walk top followLast links here names <;> simp_all
  case case10 ih => exact Nat.le_succ_of_le ih

/-- What is wrong with a path before it is followed. -/
def pathFault (p : Path) : Option IoError :=
  if 0 ∈ p then some .zeroInPath
  else if p = [] then some .noEntry
  else if pathLimit ≤ p.length then some .nameTooLong
  else none

namespace FileSystem

/-- Where a path begins. -/
def start (fs : FileSystem) (p : Path) : Place := if Path.isAbsolute p then [] else fs.here

/-- **The place a path leads to.** -/
def resolve (fs : FileSystem) (followLast : Bool) (p : Path) : Except IoError Place :=
  match pathFault p with
  | some e => .error e
  | none => (walk fs.top followLast maxLinks (fs.start p) (followNames p)).map (·.1)

/-- The node a path leads to. -/
def node (fs : FileSystem) (followLast : Bool) (p : Path) : Except IoError Node := do
  let place ← fs.resolve followLast p
  match fs.top.at? place with
  | some n => .ok n
  | none => .error .noEntry

/-! ## 3. Looking and reading -/

/-- What can be told of a file without reading it. -/
inductive Metadata where
  | regular (modified : Instant)
  | directory
  | link
  | special
  deriving DecidableEq, Repr

/-- What can be told of a node. -/
def metadataOf : Node → Metadata
  | .file _ modified _ => .regular modified
  | .directory _ _ => .directory
  | .link _ => .link
  | .pipe => .special

/-- **What is at the end of a path**, links followed. -/
def stat (fs : FileSystem) (p : Path) : Except IoError Metadata :=
  (fs.node true p).map metadataOf

/-- What is at the end of a path; a link there is itself the answer. -/
def lstat (fs : FileSystem) (p : Path) : Except IoError Metadata :=
  (fs.node false p).map metadataOf

/-- Is there a regular file at the end of the path, links followed? -/
def isFile (fs : FileSystem) (p : Path) : Bool :=
  match fs.stat p with
  | .ok (.regular _) => true
  | _ => false

/-- Is there a directory at the end of the path, links followed? -/
def isDirectory (fs : FileSystem) (p : Path) : Bool :=
  match fs.stat p with
  | .ok .directory => true
  | _ => false

/-- Is there a symbolic link at the end of the path? -/
def isLink (fs : FileSystem) (p : Path) : Bool :=
  match fs.lstat p with
  | .ok .link => true
  | _ => false

/-- **The octets of the file at a path.** A directory is opened before it shows that it is none. -/
def read (fs : FileSystem) (p : Path) : Except IoError Bytes := do
  match ← fs.node true p with
  | .file content _ rights => content.read rights
  | .directory _ rights => .error (if rights.read then .isDirectory else .accessDenied)
  | .link _ => .error .linkLoop
  | .pipe => .error .badData

/-- **The names in the directory at a path**, in the directory's own order. -/
def readDir (fs : FileSystem) (p : Path) : Except IoError (List Bytes) := do
  match ← fs.node true p with
  | .directory children rights =>
    if rights.read then .ok (children.map (·.1)) else .error .accessDenied
  | _ => .error .notDirectory

end FileSystem

end Docroot.Files
