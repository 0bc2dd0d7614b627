import NodeSettings.Text.Decimal

/-!
# Templates

A template is a text with directives that show the fields of something. A directive is a percent
sign, the name of a field in round brackets, flags, a width, a precision and a letter, of which
only the percent sign and the letter are always there. Two percent signs stand for one. Reading a
template never fails: a directive that the template breaks off has no letter, and what follows a
bracket that is not closed is no directive at all.
-/

namespace NodeSettings.Log

namespace Template

/-! ### Directives -/

inductive Extent where
  | absent
  | count (n : Nat)
  /-- It is to be taken from what is shown. -/
  | taken
  deriving DecidableEq, Repr

structure Flags where
  /-- The field is filled up on the right. -/
  left : Bool := false
  /-- A number that is not negative has a plus sign. -/
  plus : Bool := false
  /-- A number that is not negative and has no sign has a space. -/
  space : Bool := false
  /-- A number shows its base, or its point. -/
  alternate : Bool := false
  /-- A number is filled up with zeros. -/
  zero : Bool := false
  deriving DecidableEq, Repr

structure Directive where
  /-- The name of the field; without one the directive shows the whole. -/
  key : Option Text
  flags : Flags
  width : Extent
  precision : Extent
  /-- The letter; none if the template ends before it. -/
  letter : Option CodePoint
  deriving DecidableEq, Repr

inductive Part where
  | char (c : CodePoint)
  | directive (d : Directive)
  | unclosed
  deriving DecidableEq, Repr

/-! ### Reading -/

/-- The text up to the bracket that closes `depth + 1` open ones, and the text after it. -/
def closeKey? : Nat → Text → Option (Text × Text)
  | _, [] => none
  | depth, '(' :: rest => (closeKey? (depth + 1) rest).map fun (key, after) => ('(' :: key, after)
  | 0, ')' :: rest => some ([], rest)
  | depth + 1, ')' :: rest => (closeKey? depth rest).map fun (key, after) => (')' :: key, after)
  | depth, c :: rest => (closeKey? depth rest).map fun (key, after) => (c :: key, after)

def isFlag (c : CodePoint) : Bool := c = '-' || c = '+' || c = ' ' || c = '#' || c = '0'

def Flags.add (flags : Flags) : CodePoint → Flags
  | '-' => { flags with left := true }
  | '+' => { flags with plus := true }
  | ' ' => { flags with space := true }
  | '#' => { flags with alternate := true }
  | '0' => { flags with zero := true }
  | _ => flags

/-- The extent at the start of a text and the text after it; `missing` is the extent where there is
neither a number nor an asterisk. -/
def readExtent (missing : Extent) : Text → Extent × Text
  | '*' :: rest => (.taken, rest)
  | s =>
    let digits := s.takeWhile Text.isDigit
    (if digits.isEmpty then missing else .count (Decimal.value digits), s.dropWhile Text.isDigit)

/-- The precision at the start of a text and the text after it. A point alone is a precision of
zero. -/
def readPrecision : Text → Extent × Text
  | '.' :: rest => readExtent (.count 0) rest
  | s => (.absent, s)

def isSize (c : CodePoint) : Bool := c = 'h' || c = 'l' || c = 'L'

def skipSize : Text → Text
  | c :: rest => if isSize c then rest else c :: rest
  | [] => []

def readAfterKey (key : Option Text) (s : Text) : Directive × Text :=
  let (width, s') := readExtent .absent (s.dropWhile isFlag)
  let (precision, s') := readPrecision s'
  let s' := skipSize s'
  ({ key
     flags := (s.takeWhile isFlag).foldl Flags.add {}
     width
     precision
     letter := s'.head? }, s'.drop 1)

/-- The part of a template that begins with a percent sign, given the text after that sign, and the
text after the part. -/
def readPart : Text → Part × Text
  | '%' :: rest => (.char '%', rest)
  | '(' :: rest =>
    match closeKey? 0 rest with
    | some (key, after) =>
      let (d, after) := readAfterKey (some key) after
      (.directive d, after)
    | none => (.unclosed, [])
  | s =>
    let (d, after) := readAfterKey none s
    (.directive d, after)

def partsFrom (skip : Nat) : Text → List Part
  | [] => []
  | c :: rest =>
    match skip with
    | skip + 1 => partsFrom skip rest
    | 0 =>
      if c = '%' then
        let (part, after) := readPart rest
        part :: partsFrom (rest.length - after.length) rest
      else .char c :: partsFrom 0 rest

def parts (template : Text) : List Part := partsFrom 0 template

end Template

end NodeSettings.Log
