import NodeSettings.Text.Capital
import NodeSettings.Text.Decimal
import NodeSettings.Time.Calendar

/-!
# Patterns of dates

A pattern is a text with directives. A directive is a percent sign, flags, a width, a modifier and
a letter: the letter tells which part of the moment is shown, the flags how it is filled up and
whether its letters are changed. A directive that no rule knows stands for itself.
-/

namespace NodeSettings.Time

/-! ### Directives -/

/-- How a field is filled up to its width. -/
inductive Filling where
  | spaces
  | zeros
  /-- A number takes no more digits than it has. -/
  | bare
  deriving DecidableEq, Repr

inductive Modifier where
  /-- Asks for the era of the locale. -/
  | era
  /-- Asks for the digits of the locale. -/
  | digits
  deriving DecidableEq, Repr

structure Directive where
  filling : Option Filling := none
  capitals : Bool := false
  /-- Whether letters change their case. -/
  changeCase : Bool := false
  width : Nat := 0
  modifier : Option Modifier := none
  /-- The letter; none if the pattern ends before it. -/
  letter : Option CodePoint := none
  source : Text := []
  deriving DecidableEq, Repr

def isFlag (c : CodePoint) : Bool := c = '_' || c = '-' || c = '0' || c = '^' || c = '#'

namespace Directive

def withFlag (d : Directive) : CodePoint → Directive
  | '_' => { d with filling := some .spaces }
  | '-' => { d with filling := some .bare }
  | '0' => { d with filling := some .zeros }
  | '^' => { d with capitals := true }
  | '#' => { d with changeCase := true }
  | _ => d

/-- The modifier that a character stands for. -/
def modifierOf? : Option CodePoint → Option Modifier
  | some 'E' => some .era
  | some 'O' => some .digits
  | _ => none

/-- The directive whose percent sign has been taken; no field gets wider than `limit`. -/
def read (limit : Nat) (s : Text) : Directive :=
  let flags := s.takeWhile isFlag
  let afterFlags := s.dropWhile isFlag
  let width := afterFlags.takeWhile Text.isDigit
  let afterWidth := afterFlags.dropWhile Text.isDigit
  let modifier := modifierOf? afterWidth.head?
  let afterModifier := afterWidth.drop (if modifier.isSome then 1 else 0)
  let size := s.length - afterModifier.length + 1
  { flags.foldl withFlag {} with
    width := min (Decimal.value width) limit
    modifier
    letter := afterModifier.head?
    source := '%' :: s.take size }

end Directive

/-! ### Fields -/

inductive Field where
  /-- A number with at least so many digits, filled up in its own way if the directive leaves it
  open. -/
  | number (digits : Nat) (filling : Filling) (value : Int)
  | text (s : Text)
  deriving DecidableEq, Repr

def fill (c : CodePoint) (width : Nat) (s : Text) : Text := List.replicate (width - s.length) c ++ s

def zeroFilled (width : Nat) (value : Int) : Text :=
  match Decimal.ofInt value with
  | '-' :: digits => '-' :: fill '0' (width - 1) digits
  | digits => fill '0' width digits

namespace Field

def render (d : Directive) : Field → Text
  | .number digits filling value =>
    match d.filling.getD filling with
    | .spaces => fill ' ' (max digits d.width) (Decimal.ofInt value)
    | .zeros => zeroFilled (max digits d.width) value
    | .bare => fill ' ' d.width (Decimal.ofInt value)
  | .text s => fill (if d.filling = some .zeros then '0' else ' ') d.width s

end Field

/-- The names of the days of the week, from Sunday. -/
def weekdayNames : List Text :=
  ["Sunday", "Monday", "Tuesday", "Wednesday", "Thursday", "Friday", "Saturday"]

def monthNames : List Text :=
  ["January", "February", "March", "April", "May", "June", "July", "August", "September",
   "October", "November", "December"]

namespace Moment

def weekdayName (m : Moment) : Text := weekdayNames.getD m.weekday []

def monthName (m : Moment) : Text := monthNames.getD (m.date.month - 1) []

def halfOfDay (m : Moment) : Text := if m.hour < 12 then "AM" else "PM"

def weekYearNumber (m : Moment) : Int := m.weekYear.1.bmod 0x100000000

def pair (n : Nat) : Field := .number 2 .zeros n

def spaced (n : Nat) : Field := .number 2 .spaces n

/-- The field of a letter that stands for one part of a moment. -/
def field? (m : Moment) : CodePoint → Option Field
  | 'a' => some (.text (m.weekdayName.take 3))
  | 'A' => some (.text m.weekdayName)
  | 'b' | 'h' => some (.text (m.monthName.take 3))
  | 'B' => some (.text m.monthName)
  | 'C' => some (.number 1 .zeros (m.date.year / 100))
  | 'd' => some (pair m.date.day)
  | 'e' => some (spaced m.date.day)
  | 'g' => some (.number 2 .zeros (m.weekYearNumber % 100))
  | 'G' => some (.number 1 .zeros m.weekYearNumber)
  | 'H' => some (pair m.hour)
  | 'I' => some (pair m.clockHour)
  | 'j' => some (.number 3 .zeros (m.dayOfYear + 1))
  | 'k' => some (spaced m.hour)
  | 'l' => some (spaced m.clockHour)
  | 'm' => some (pair m.date.month)
  | 'M' => some (pair m.minute)
  | 'n' => some (.text "\n")
  | 'p' | 'P' => some (.text m.halfOfDay)
  | 's' => some (.text (Decimal.ofInt m.seconds))
  | 'S' => some (pair m.second)
  | 't' => some (.text "\t")
  | 'u' => some (.number 1 .zeros (m.weekdayFromMonday + 1))
  | 'U' => some (pair m.weekFromSunday)
  | 'V' => some (pair m.weekYear.2)
  | 'w' => some (.number 1 .zeros m.weekday)
  | 'W' => some (pair m.weekFromMonday)
  | 'y' => some (.number 2 .zeros (m.date.year % 100))
  | 'Y' => some (.number 1 .zeros m.date.year)
  | 'Z' => some (.text "GMT")
  | '%' => some (.text "%")
  | _ => none

def plain (m : Moment) : Text → Text
  | '%' :: letter :: rest => ((m.field? letter).map (·.render {})).getD [] ++ m.plain rest
  | c :: rest => c :: m.plain rest
  | [] => []

/-- The pattern that a letter stands for. -/
def patternOf? : CodePoint → Option Text
  | 'c' => some "%a %b %e %H:%M:%S %Y"
  | 'D' | 'x' => some "%m/%d/%y"
  | 'F' => some "%Y-%m-%d"
  | 'r' => some "%I:%M:%S %p"
  | 'R' => some "%H:%M"
  | 'T' | 'X' => some "%H:%M:%S"
  | _ => none

def fields? (m : Moment) (letter : CodePoint) : Option (List Field) :=
  match patternOf? letter with
  | some pattern => some [.text (m.plain pattern)]
  | none =>
    if letter = 'z' then some [.text "+", .number 4 .zeros 0]
    else (m.field? letter).map fun field => [field]

end Moment

/-! ### Showing -/

def lettersWithoutEra : Text := "aAbBdDeFgGhHIjklmMSUVwW"

def lettersWithoutDigits : Text := "aAcDFxXY"

def takesModifier (letter : CodePoint) : Option Modifier → Bool
  | some .era => !lettersWithoutEra.contains letter
  | some .digits => !lettersWithoutDigits.contains letter
  | none => true

namespace Directive

/-- The directive as its letter takes it: where the case is to change, the short name of a month
makes capitals of the whole directive, even if it then stands for itself. -/
def forLetter (d : Directive) : CodePoint → Directive
  | 'b' | 'h' => { d with capitals := d.capitals || d.changeCase }
  | _ => d

/-- The text of a letter in the case that the directive asks for. Where the case is to change, the
half of the day and the zone become small, and the names of days and months become capitals. -/
def inCase (d : Directive) (letter : CodePoint) (s : Text) : Text :=
  if letter = 'P' || (d.changeCase && (letter = 'p' || letter = 'Z')) then s.map CodePoint.toLower
  else if d.capitals || (d.changeCase && (letter = 'a' || letter = 'A' || letter = 'B')) then
    s.map CodePoint.toUpper
  else s

/-- The text of a directive that stands for itself. -/
def renderSource (d : Directive) : Text :=
  let s := (Field.text d.source).render d
  if d.capitals then s.map Text.capital else s

def renderLetter (d : Directive) (letter : CodePoint) (m : Moment) : Text :=
  match m.fields? letter with
  | some fields =>
    if takesModifier letter d.modifier then d.inCase letter (fields.flatMap (·.render d))
    else d.renderSource
  | none => d.renderSource

def render (d : Directive) (m : Moment) : Text :=
  match d.letter with
  | some letter => (d.forLetter letter).renderLetter letter m
  | none => d.renderSource

end Directive

inductive Part where
  | char (c : CodePoint)
  | directive (d : Directive)
  deriving DecidableEq, Repr

def partsFrom (limit skip : Nat) : Text → List Part
  | [] => []
  | c :: rest =>
    match skip with
    | skip + 1 => partsFrom limit skip rest
    | 0 =>
      if c = '%' then
        let d := Directive.read limit rest
        .directive d :: partsFrom limit (d.source.length - 1) rest
      else .char c :: partsFrom limit 0 rest

def Part.render (m : Moment) : Part → Text
  | .char c => [c]
  | .directive d => d.render m

/-- The doubled sizes from `size` on, up to the first that reaches `enough`. -/
def roomFrom (size enough : Nat) : Nat → Nat
  | 0 => size
  | steps + 1 => if enough ≤ size then size else roomFrom (2 * size) enough steps

/-- The size that the text of a pattern stays below: the first of 1024, 2048 and so on that is at
least 256 times the length of the pattern. -/
def roomFor (pattern : Text) : Nat := roomFrom 1024 (256 * pattern.length) pattern.length

/-- The text of a pattern at a moment; a text that grows beyond its room is not shown. -/
def format (pattern : Text) (m : Moment) : Text :=
  let room := roomFor pattern
  let s := (partsFrom room 0 pattern).flatMap (·.render m)
  if s.length < room then s else []

end NodeSettings.Time
