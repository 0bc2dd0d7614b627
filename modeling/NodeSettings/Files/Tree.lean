import NodeSettings.Files.Access
import NodeSettings.Files.Path

/-!
# Trees of files

The files below a working directory. Above that directory there are directories without names that
the tree knows, so a path that leaves it finds directories on the way up and nothing else. A path
is walked name by name, and the first name that cannot be followed decides what goes wrong. The
names are octets, since two texts may ask for the same ones.
-/

namespace NodeSettings

/-- The name of a file or a directory, in octets. -/
abbrev FileName := List UInt8

namespace FileName

def slash : UInt8 := 0x2F

def here : FileName := [0x2E]

def up : FileName := [0x2E, 0x2E]

/-- Whether a name leads on from a directory: it is neither empty nor a single dot. -/
def leadsOn (name : FileName) : Bool := !name.isEmpty && name ≠ here

/-- The names of a path in octets, the empty ones among them. -/
def ofPath (octets : List UInt8) : List FileName := octets.splitOn slash

end FileName

inductive FileNode where
  | file (octets : List UInt8)
  | directory
  deriving DecidableEq, Repr

/-- The way from the working directory to a file. -/
abbrev Place := List FileName

/-- The places below the working directory with what stands there, in the order of making. -/
structure FileTree where
  nodes : List (Place × FileNode) := []
  deriving DecidableEq, Repr

namespace FileTree

/-- What stands at a place; the working directory is a directory. -/
def node? (tree : FileTree) (place : Place) : Option FileNode :=
  if place.isEmpty then some .directory else tree.nodes.lookup place

/-! ### Walking -/

inductive Spot where
  | inside (place : Place)
  /-- At a directory above the tree. -/
  | outside
  deriving DecidableEq, Repr

/-- The largest size of a name, in octets. -/
def maxNameSize : Nat := 255

/-- The size that a path stays below, in octets. -/
def pathSizeLimit : Nat := 4096

def at? (tree : FileTree) : Spot → Option FileNode
  | .inside place => tree.node? place
  | .outside => some .directory

def enter (tree : FileTree) (name : FileName) : Spot → Except AccessCause Spot
  | .inside place =>
    if (tree.node? (place ++ [name])).isSome then .ok (.inside (place ++ [name]))
    else .error .notFound
  | .outside => .error .notFound

def above : Spot → Spot
  | .inside place => if place.isEmpty then .outside else .inside place.dropLast
  | .outside => .outside

def step (tree : FileTree) (spot : Spot) (name : FileName) : Except AccessCause Spot :=
  if tree.at? spot ≠ some .directory then .error .notDirectory
  else if !name.leadsOn then .ok spot
  else if name = FileName.up then .ok (above spot)
  else if maxNameSize < name.length then .error .nameTooLong
  else tree.enter name spot

def walk (tree : FileTree) (spot : Spot) : List FileName → Except AccessCause Spot
  | [] => .ok spot
  | name :: rest =>
    match tree.step spot name with
    | .ok spot => tree.walk spot rest
    | .error cause => .error cause

/-- Where the octets of a path lead. -/
def find (tree : FileTree) (octets : List UInt8) : Except AccessCause Spot :=
  if octets.isEmpty then .error .notFound
  else if pathSizeLimit ≤ octets.length then .error .nameTooLong
  else
    tree.walk (if octets.head? = some FileName.slash then .outside else .inside [])
      (FileName.ofPath octets)

def file (tree : FileTree) (octets : List UInt8) : Except AccessCause (Place × List UInt8) :=
  match tree.find octets with
  | .error cause => .error cause
  | .ok .outside => .error .isDirectory
  | .ok (.inside place) =>
    match tree.node? place with
    | some (.file content) => .ok (place, content)
    | some .directory => .error .isDirectory
    | none => .error .notFound

/-- The place and the content of the file that a path leads to. -/
def ask (tree : FileTree) (path : Text) : Except OpenError (Place × List UInt8) :=
  match PathOctets.encode path with
  | .error flaw => .error (.badPath flaw)
  | .ok octets =>
    match tree.file octets with
    | .ok found => .ok found
    | .error cause => .error (.access ⟨cause, some path⟩)

def read (tree : FileTree) : FileReader := fun path => (tree.ask path).map (·.2)

/-! ### Changing -/

def erase (tree : FileTree) (place : Place) : FileTree :=
  ⟨tree.nodes.filter (·.1 ≠ place)⟩

def put (tree : FileTree) (place : Place) (node : FileNode) : FileTree :=
  if (tree.node? place).isSome then
    ⟨tree.nodes.map fun entry => if entry.1 = place then (place, node) else entry⟩
  else ⟨tree.nodes ++ [(place, node)]⟩

/-- The tree with a directory at a place, unless something stands there. -/
def putDirectory (tree : FileTree) (place : Place) : FileTree :=
  if (tree.node? place).isSome then tree else tree.put place .directory

/-- The place that names lead to when every name but the one that goes up is taken for a
directory. -/
def placeOf (names : List FileName) : Place :=
  names.foldl (fun place name => if name = FileName.up then place.dropLast else place ++ [name]) []

/-- The tree with directories all the way to a place, and a node there. -/
def putAt (tree : FileTree) (names : List FileName) (node : FileNode) : FileTree :=
  let parents := (List.range names.length).map fun n => placeOf (names.take n)
  (parents.foldl putDirectory tree).put (placeOf names) node

/-- The tree with directories all the way to a path, and a node there; a path with which nothing can
be asked for leaves it as it is. -/
def write (tree : FileTree) (path : Text) (node : FileNode) : FileTree :=
  match PathOctets.encode path with
  | .error _ => tree
  | .ok octets => tree.putAt ((FileName.ofPath octets).filter FileName.leadsOn) node

def remove (tree : FileTree) (path : Text) : Except OpenError FileTree :=
  (tree.ask path).map fun found => tree.erase found.1

end FileTree

end NodeSettings
