import NodeSettings.Log.Template.Basic
import NodeSettings.Log.Template.Notation

/-!
# Conversions

What the letter of a directive makes of a value, and which values it takes. A value that a letter
does not take, and a number beyond what can be held, is a fault.
-/

namespace NodeSettings.Log.Template

/-! ### Values and faults -/

inductive Value where
  | text (s : Text)
  | integer (n : Int)
  /-- A whole number that is not taken as an integer. -/
  | number (n : Int)
  | other (shown : Text)
  deriving DecidableEq, Repr

inductive Excess where
  /-- A number beyond the code points, taken as a character. -/
  | character
  /-- A number too large to be a width. -/
  | width
  /-- A number too large to be a precision. -/
  | precision
  /-- A precision too large for the digits of an integer. -/
  | digits
  /-- An integer too large to be rounded. -/
  | number
  /-- A line too long to be held. -/
  | room
  deriving DecidableEq, Repr

/-- An excess in words; for a line that cannot be held there are none. -/
def Excess.message : Excess → Text
  | .character => "%c arg not in range(0x110000)"
  | .width => "Python int too large to convert to C ssize_t"
  | .precision => "Python int too large to convert to C int"
  | .digits => "precision too large"
  | .number => "int too large to convert to float"
  | .room => []

inductive Fault where
  | incomplete
  | unknownField (name : Text)
  | extentTooLarge
  /-- A directive without a name finds nothing left to show. -/
  | nothingToShow
  | unknownLetter (letter : CodePoint)
  | mismatch
  | excess (e : Excess)
  deriving DecidableEq, Repr

/-! ### Conversions -/

inductive Base where
  | ten
  | eight
  | sixteen (capital : Bool)
  deriving DecidableEq, Repr

inductive Notation where
  | fixed
  | scientific (mark : CodePoint)
  | general (mark : CodePoint)
  deriving DecidableEq, Repr

inductive Quoting where
  | plain
  | quoted
  /-- In quotes, and in characters of the basic range. -/
  | basic
  deriving DecidableEq, Repr

inductive Conversion where
  | text (quoting : Quoting)
  | character
  | integer (base : Base)
  | number (form : Notation)
  deriving DecidableEq, Repr

def Conversion.ofLetter? : CodePoint → Option Conversion
  | 's' => some (.text .plain)
  | 'r' => some (.text .quoted)
  | 'a' => some (.text .basic)
  | 'c' => some .character
  | 'd' | 'i' | 'u' => some (.integer .ten)
  | 'o' => some (.integer .eight)
  | 'x' => some (.integer (.sixteen false))
  | 'X' => some (.integer (.sixteen true))
  | 'f' | 'F' => some (.number .fixed)
  | 'e' => some (.number (.scientific 'e'))
  | 'E' => some (.number (.scientific 'E'))
  | 'g' => some (.number (.general 'e'))
  | 'G' => some (.number (.general 'E'))
  | _ => none

/-! ### Checking -/

def maxWidth : Nat := 0x7FFFFFFFFFFFFFFF

def maxPrecision : Nat := 0x7FFFFFFF

def maxDigits : Nat := maxPrecision - 3

def characterBound : Nat := 0x110000

def checkCharacter (n : Int) : Except Fault Unit :=
  if n < 0 ∨ characterBound ≤ n then .error (.excess .character) else .ok ()

/-- Checks an extent against what can be held. One that is to be taken from an integer leaves
nothing to show. -/
def Extent.check (bound : Nat) (excess : Excess) (value : Value) : Extent → Except Fault Unit
  | .absent => .ok ()
  | .count n => if n ≤ bound then .ok () else .error .extentTooLarge
  | .taken =>
    match value with
    | .integer n => .error (if n.natAbs ≤ bound then .nothingToShow else .excess excess)
    | _ => .error .mismatch

def checkWidth (value : Value) (extent : Extent) : Except Fault Unit :=
  extent.check maxWidth .width value

def checkPrecision (value : Value) (extent : Extent) : Except Fault Unit :=
  extent.check maxPrecision .precision value

def Extent.number? : Extent → Option Nat
  | .count n => some n
  | _ => none

def checkDigits (precision : Extent) : Except Fault Unit :=
  if precision.number?.getD 0 ≤ maxDigits then .ok () else .error (.excess .digits)

def checkValue (precision : Extent) : Conversion → Value → Except Fault Unit
  | .text _, _ => .ok ()
  | .character, .text s => if s.length = 1 then .ok () else .error .mismatch
  | .character, .integer n => checkCharacter n
  | .integer _, .integer _ => checkDigits precision
  | .integer .ten, .number _ => checkDigits precision
  | .number _, .integer n =>
    if rounded n.natAbs < roundedBound then .ok () else .error (.excess .number)
  | .number _, .number _ => .ok ()
  | _, _ => .error .mismatch

end NodeSettings.Log.Template
