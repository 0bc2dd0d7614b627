import NodeSettings.Text.Blank

/-!
# Integers in decimal

An integer is written as an optional sign and one or more digits. A reader takes any number of
leading zeros and blank characters around the whole, and refuses a number of more than
`maxDigits` digits, leading zeros included.
-/

namespace NodeSettings.Decimal

/-! ### Writing -/

/-- The digits of a natural number, without leading zeros. -/
def ofNat (n : Nat) : Text := Text.ofChars (Nat.toDigits 10 n)

/-- An integer with a sign only where it is negative. -/
def ofInt : Int → Text
  | .ofNat n => ofNat n
  | .negSucc n => '-' :: ofNat (n + 1)

/-! ### Reading -/

def maxDigits : Nat := 4300

inductive Flaw where
  | notInteger
  | tooManyDigits (count : Nat)
  deriving DecidableEq, Repr

/-- Reads a row of digits on from a number. -/
def valueFrom (n : Nat) (digits : Text) : Nat :=
  digits.foldl (fun n d => 10 * n + (d.toNat - '0'.toNat)) n

/-- The number that a row of digits stands for. -/
def value (digits : Text) : Nat := valueFrom 0 digits

/-- Whether a numeral begins with a minus sign, and what follows its sign. -/
def splitSign : Text → Bool × Text
  | '-' :: rest => (true, rest)
  | '+' :: rest => (false, rest)
  | s => (false, s)

/-- The integer that a text holds, blank characters around it aside. -/
def parse (s : Text) : Except Flaw Int :=
  let (negative, digits) := splitSign (Text.trim s)
  if !Text.isDigits digits then .error .notInteger
  else if maxDigits < digits.length then .error (.tooManyDigits digits.length)
  else .ok (if negative then -(value digits : Int) else value digits)

def tooManyDigitsMessage (count : Nat) : Text :=
  "Exceeds the limit (" ++ ofNat maxDigits ++ " digits) for integer string conversion: value has "
    ++ ofNat count ++ " digits; use sys.set_int_max_str_digits() to increase the limit"

end NodeSettings.Decimal
