import NodeSettings.Document.Entry
import NodeSettings.Property.Bindings

/-!
# Reading a document

A document is read entry by entry. A reader that insists on bindings refuses the document with its
first malformed line; another passes over such lines. Lines are counted from one, and an entry
stands where the blank lines before it begin.
-/

namespace NodeSettings.Document

structure Place where
  entry : Entry
  start : Text
  rest : Text
  deriving DecidableEq, Repr

def Place.source (place : Place) : Text := place.start.take (place.start.length - place.rest.length)

/-- The entries of a text, in order. -/
def places : Text → List Place
  | [] => []
  | c :: s =>
    ⟨(readEntry (c :: s)).1, c :: s, (readEntry (c :: s)).2⟩ :: places (readEntry (c :: s)).2
termination_by s => s.length
decreasing_by exact length_readEntry_lt (List.cons_ne_nil c s)

/-- The text without the byte-order mark that may begin it. -/
def withoutMark : Text → Text
  | '\uFEFF' :: rest => rest
  | s => s

/-- The bindings of a document, malformed lines passed over. -/
def pairs (document : Text) : List Pair :=
  (places (withoutMark document)).filterMap fun place =>
    match place.entry with
    | .binding pair => some pair
    | _ => none

structure MalformedLine where
  line : Nat
  /-- Its text, without the line end. -/
  source : Text
  deriving DecidableEq, Repr

def malformedLine (text : Text) (place : Place) : MalformedLine where
  line := Text.lineEnds (text.take (text.length - place.start.length)) + 1
  source := (place.source.reverse.dropWhile Text.isLineEnd).reverse

/-- The bindings of a document, where a key without a value is bound to the empty text, or its
first malformed line. -/
def bindings (document : Text) : Except MalformedLine Bindings :=
  let text := withoutMark document
  match (places text).find? fun place => place.entry = .malformed with
  | some place => .error (malformedLine text place)
  | none => .ok ((pairs document).map fun pair => (pair.1, pair.2.getD []))

end NodeSettings.Document
