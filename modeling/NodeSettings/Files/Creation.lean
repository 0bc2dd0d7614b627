import NodeSettings.Files.Tree

/-!
# Making directories and files

A directory is made below directories that are there; to make a path of directories, the missing
ones are made from the first on. A file that is to be added to is made where it is missing, at the
place that its path names when every name is taken for a directory.
-/

namespace NodeSettings

namespace Path

/-- Whether a row of names goes above its start, when every name is taken for a directory and
`depth` names precede the row. -/
def risesAbove (depth : Nat) : List Text → Bool
  | [] => false
  | name :: rest =>
    if name = (".." : Text) then
      match depth with
      | 0 => true
      | depth + 1 => risesAbove depth rest
    else risesAbove (depth + 1) rest

def staysInside (path : Path) : Bool := path.root.isEmpty && !risesAbove 0 path.names

/-- The octets of a path, and the names in them that lead on. -/
def octetNames (path : Path) : Except OpenError (List UInt8 × List FileName) :=
  match PathOctets.encode path.text with
  | .error flaw => .error (.badPath flaw)
  | .ok octets => .ok (octets, (FileName.ofPath octets).filter FileName.leadsOn)

end Path

namespace FileTree

/-! ### Directories -/

def isDirectory (tree : FileTree) (names : List FileName) : Bool :=
  match tree.walk (.inside []) names with
  | .ok spot => tree.at? spot = some .directory
  | .error _ => false

/-- The tree with a directory at the end of a row of names, all but the last of which lead to a
directory. -/
def makeDirectory (tree : FileTree) (names : List FileName) : Except AccessCause FileTree :=
  match names.getLast? with
  | none => .error .exists
  | some name =>
    match tree.walk (.inside []) names.dropLast with
    | .error cause => .error cause
    | .ok spot =>
      match tree.step spot name with
      | .ok _ => .error .exists
      | .error .notFound =>
        match spot with
        | .inside place => .ok (tree.put (place ++ [name]) .directory)
        | .outside => .error .notFound
      | .error cause => .error cause

/-- The tree with a directory at the end of a row of names; one that is there is as good as one
that is made. -/
def ensureDirectory (tree : FileTree) (path : Path) (names : List FileName) :
    Except OpenError FileTree :=
  match tree.makeDirectory names with
  | .ok tree => .ok tree
  | .error cause =>
    if tree.isDirectory names then .ok tree else .error (.access ⟨cause, some path.text⟩)

def ensureDirectories (tree : FileTree) (path : Path) : Except OpenError FileTree :=
  if _h : path.names = [] then .ok tree
  else
    match path.octetNames with
    | .error e => .error e
    | .ok (octets, names) =>
      if pathSizeLimit ≤ octets.length then .error (.access ⟨.nameTooLong, some path.text⟩)
      else
        match tree.makeDirectory names with
        | .error .notFound =>
          match tree.ensureDirectories path.parent with
          | .ok tree => tree.ensureDirectory path names
          | .error e => .error e
        | _ => tree.ensureDirectory path names
termination_by path.names.length
decreasing_by
  have := List.length_pos_iff.mpr _h
  simp only [Path.parent, List.length_dropLast]
  omega

/-! ### Files to add to -/

def openToAdd (tree : FileTree) (path : Path) : Except OpenError (FileTree × Place) :=
  match path.octetNames with
  | .error e => .error e
  | .ok (_, names) =>
    let place := placeOf names
    if place.any (maxNameSize < ·.length) then .error (.access ⟨.nameTooLong, some path.text⟩)
    else
      match tree.node? place with
      | some .directory => .error (.access ⟨.isDirectory, some path.text⟩)
      | some (.file _) => .ok (tree, place)
      | none => .ok (tree.put place (.file []), place)

def add (tree : FileTree) (place : Place) (octets : List UInt8) : FileTree :=
  match tree.node? place with
  | some (.file before) => tree.put place (.file (before ++ octets))
  | _ => tree

/-- The tree with a file at a path to add to, the directories before it made, and the place of the
file. Files that are not below the working directory have no place. -/
def ensureFile (tree : FileTree) (path : Path) : Except OpenError (FileTree × Option Place) :=
  if !path.staysInside then .ok (tree, none)
  else
    match path.parent.octetNames with
    | .error e => .error e
    | .ok _ =>
      match tree.ensureDirectories path.parent with
      | .error e => .error e
      | .ok tree => (tree.openToAdd path).map fun (tree, place) => (tree, some place)

end FileTree

end NodeSettings
