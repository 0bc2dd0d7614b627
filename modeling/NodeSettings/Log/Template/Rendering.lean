import NodeSettings.Log.Template.Conversion
import NodeSettings.Text.Quoted

/-!
# Rendering a template

A template is rendered in two steps. The first finds for every directive what it shows, whether it
can be shown so and whether there is room for it in the line; the first fault there is the fault of
the whole. The second writes the text and cannot fail.
-/

namespace NodeSettings.Log.Template

/-! ### What is shown -/

def checkDirective (d : Directive) (value : Value) : Except Fault Conversion := do
  checkWidth value d.width
  checkPrecision value d.precision
  match d.letter with
  | none => .error .incomplete
  | some letter =>
    match Conversion.ofLetter? letter with
    | none => .error (.unknownLetter letter)
    | some conversion =>
      checkValue d.precision conversion value
      return conversion

abbrev Fields := List (Text × Value)

def showFields (fields : Fields) : Text :=
  let item (field : Text × Value) : Text :=
    Text.quoted field.1 ++ ": " ++
      match field.2 with
      | .text s => Text.quoted s
      | .integer n => Decimal.ofInt n
      | .number n => Decimal.ofInt n ++ ".0"
      | .other shown => shown
  .char '\x7b' :: List.intercalate (", " : Text) (fields.map item) ++ [.char '\x7d']

/-- What a directive shows. A directive without a name shows the whole, as long as no directive
before it has shown anything. -/
def valueFor (fields : Fields) (fresh : Bool) (key : Option Text) : Except Fault Value :=
  match key with
  | some name =>
    match fields.lookup name with
    | some value => .ok value
    | none => .error (.unknownField name)
  | none => if fresh then .ok (.other (showFields fields)) else .error .nothingToShow

/-! ### Fields in runs -/

/-- The text of a value without regard to the directive. -/
def Value.shown (quoting : Quoting) : Value → Text
  | .text s =>
    match quoting with
    | .plain => s
    | .quoted => Text.quoted s
    | .basic => Text.plainQuoted s
  | .integer n => Decimal.ofInt n
  | .number n => Decimal.ofInt n ++ ".0"
  | .other shown =>
    if quoting = .basic then
      shown.flatMap fun c => if Text.isPlain c then [c] else Text.codeEscape c
    else shown

def Value.toInt : Value → Int
  | .integer n | .number n => n
  | _ => 0

def Value.character : Value → Text
  | .text s => s
  | value => [CodePoint.ofNat value.toInt.toNat]

def Base.mark : Base → Text
  | .ten => []
  | .eight => "0o"
  | .sixteen false => "0x"
  | .sixteen true => "0X"

def Base.digits (base : Base) (n : Nat) : Text :=
  match base with
  | .ten => Decimal.ofNat n
  | .eight => Text.ofChars (Nat.toDigits 8 n)
  | .sixteen false => Text.ofChars (Nat.toDigits 16 n)
  | .sixteen true => (Text.ofChars (Nat.toDigits 16 n)).map CodePoint.toUpper

def Notation.digits (form : Notation) (precision : Option Nat) (point : Bool) (n : Nat) :
    List Run :=
  let places := precision.getD 6
  match form with
  | .fixed => fixedPlaces places point n
  | .scientific mark => withExponent places point mark n
  | .general mark => shorter places point mark n

def Flags.sign (flags : Flags) (negative : Bool) : Text :=
  if negative then ['-'] else if flags.plus then ['+'] else if flags.space then [' '] else []

/-- A field filled up to a width: on the right if the flags say so, and otherwise, for a number
that is filled up with zeros, after its lead. -/
def Flags.fill (flags : Flags) (width : Nat) (numeric : Bool) (lead : Text) (body : List Run) :
    List Run :=
  let missing := width - (lead.length + size body)
  let zeros := numeric && flags.zero
  if flags.left then .text lead :: body ++ [.fill missing ' ']
  else if zeros then .text lead :: .fill missing '0' :: body
  else .fill missing ' ' :: .text lead :: body

def fieldRuns (d : Directive) (conversion : Conversion) (value : Value) : List Run :=
  let width := d.width.number?.getD 0
  let precision := d.precision.number?
  let number := value.toInt
  let sign := d.flags.sign (number < 0)
  match conversion with
  | .text quoting =>
    let s := value.shown quoting
    d.flags.fill width false [] [.text (s.take (precision.getD s.length))]
  | .character => d.flags.fill width false [] [.text value.character]
  | .integer base =>
    let digits := base.digits number.natAbs
    d.flags.fill width true (sign ++ if d.flags.alternate then base.mark else [])
      [.fill (precision.getD 0 - digits.length) '0', .text digits]
  | .number form =>
    d.flags.fill width true sign (form.digits precision d.flags.alternate (rounded number.natAbs))

/-! ### Lines -/

def Part.isDirective : Part → Bool
  | .directive _ => true
  | _ => false

/-- What a part of a template adds to the line. -/
def Part.runs (fields : Fields) (fresh : Bool) : Part → Except Fault (List Run)
  | .char c => .ok [.text [c]]
  | .unclosed => .error .incomplete
  | .directive d => do
    let value ← valueFor fields fresh d.key
    let conversion ← checkDirective d value
    return fieldRuns d conversion value

/-- What the parts of a template add to a line of `taken` characters, where a line of `room`
characters or more cannot be held. -/
def runsOf (room : Nat) (fields : Fields) (fresh : Bool) (taken : Nat) :
    List Part → Except Fault (List Run)
  | [] => .ok []
  | part :: rest => do
    let runs ← part.runs fields fresh
    let taken := taken + size runs
    if room ≤ taken then .error (.excess .room)
    else return runs ++ (← runsOf room fields (fresh && !part.isDirective) taken rest)

def check (room : Nat) (fields : Fields) (template : Text) : Except Fault (List Run) :=
  runsOf room fields true 0 (parts template)

def render (room : Nat) (fields : Fields) (template : Text) : Except Fault Text :=
  (check room fields template).map written

end NodeSettings.Log.Template
