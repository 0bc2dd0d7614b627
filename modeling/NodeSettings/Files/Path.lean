import NodeSettings.Text.Basic

/-!
# Paths

A path is a root and a row of names. A path is read without its empty names and without the names
that stay where they are; a name that goes up is kept, since what it means depends on the files.
Two slashes at the start are a root of their own, more of them are one.
-/

namespace NodeSettings

structure Path where
  root : Text
  names : List Text
  deriving DecidableEq, Repr

namespace Path

/-- Whether a name leads on from a directory: it is neither empty nor a single dot. -/
def leadsOn (name : Text) : Bool := !name.isEmpty && name ≠ "."

/-- The root of a path with so many slashes at the start. -/
def rootOf : Nat → Text
  | 0 => []
  | 2 => "//"
  | _ => "/"

def ofText (s : Text) : Path where
  root := rootOf (s.takeWhile (· = .char '/')).length
  names := (Text.splitOn '/' s).filter leadsOn

def child (path : Path) (name : Text) : Path := { path with names := path.names ++ [name] }

def parent (path : Path) : Path := { path with names := path.names.dropLast }

/-- The text of a path; a path without root and names is a dot. -/
def text (path : Path) : Text :=
  if path.root.isEmpty && path.names.isEmpty then "."
  else path.root ++ List.intercalate ("/" : Text) path.names

end Path

end NodeSettings
