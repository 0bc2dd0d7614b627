import NodeSettings.Text.Decimal

/-!
# Notations of numbers

How the digits of a whole number are written: in a base, in fixed places, with an exponent, or in
the shorter of the last two. A number that has to be cut off is rounded to the nearest, and half
way to the even neighbour. A number that is not taken as an integer has 53 binary digits at most.
What is written comes in runs, so that its size is known before it takes up any room.
-/

namespace NodeSettings.Log.Template

/-! ### Runs -/

/-- A piece of a line: a text as it stands, or one character so many times. -/
inductive Run where
  | text (s : Text)
  | fill (count : Nat) (c : CodePoint)
  deriving DecidableEq, Repr

def Run.size : Run → Nat
  | .text s => s.length
  | .fill count _ => count

def Run.written : Run → Text
  | .text s => s
  | .fill count c => List.replicate count c

/-- The number of characters that runs take up. -/
def size : List Run → Nat
  | [] => 0
  | run :: rest => run.size + size rest

def written (runs : List Run) : Text := runs.flatMap Run.written

theorem size_append (runs others : List Run) :
    size (runs ++ others) = size runs + size others := by
  induction runs with
  | nil => exact (Nat.zero_add _).symm
  | cons run rest ih => rw [List.cons_append, size, size, ih, Nat.add_assoc]

theorem length_written (runs : List Run) : (written runs).length = size runs := by
  induction runs with
  | nil => rfl
  | cons run rest ih =>
    have hrun : run.written.length = run.size := by
      cases run with
      | text s => rfl
      | fill count c => exact List.length_replicate
    rw [written, List.flatMap_cons, List.length_append, hrun]
    exact congrArg (run.size + ·) ih

/-! ### Rounding -/

/-- The quotient rounded to the nearest, half way to the even neighbour. -/
def roundedQuotient (n d : Nat) : Nat :=
  let quotient := n / d
  let twice := 2 * (n % d)
  if d < twice || (twice = d && quotient % 2 = 1) then quotient + 1 else quotient

def binaryPlaces : Nat := 53

/-- The number rounded to the binary digits that it keeps. -/
def rounded (n : Nat) : Nat :=
  let unit := Nat.pow 2 (n.log2 + 1 - binaryPlaces)
  roundedQuotient n unit * unit

def roundedBound : Nat := Nat.pow 2 1024

/-! ### Fixed places and exponents -/

/-- The fraction of a whole number, in so many places: the point is there for a place to follow it
or where it is asked for. -/
def zeroFraction (places : Nat) (point : Bool) : List Run :=
  if places = 0 then (if point then [.text "."] else []) else [.text ".", .fill places '0']

def fixedPlaces (places : Nat) (point : Bool) (n : Nat) : List Run :=
  .text (Decimal.ofNat n) :: zeroFraction places point

/-- The first digits of a number, with zeros behind them, and the exponent of the first one. -/
structure Leading where
  digits : Text
  zeros : Nat
  exponent : Nat
  deriving DecidableEq, Repr

/-- The first `count` digits of a number, rounded. -/
def leadingDigits (count n : Nat) : Leading :=
  let digits := Decimal.ofNat n
  if digits.length ≤ count then ⟨digits, count - digits.length, digits.length - 1⟩
  else
    let cut := Decimal.ofNat (roundedQuotient n (Nat.pow 10 (digits.length - count)))
    ⟨cut.take count, 0, digits.length - 1 + (cut.length - count)⟩

/-- The exponent with its sign and at least two digits. -/
def exponentText (exponent : Nat) : Text :=
  let digits := Decimal.ofNat exponent
  .char '+' :: List.replicate (2 - digits.length) (.char '0') ++ digits

/-- The first digits with a point behind the first one, where others follow it or where the point is
asked for. -/
def Leading.pointed (point : Bool) (leading : Leading) : List Run :=
  let others := leading.digits.drop 1
  .text (leading.digits.take 1) ::
    if others.isEmpty && leading.zeros = 0 then (if point then [.text "."] else [])
    else [.text ('.' :: others), .fill leading.zeros '0']

def withExponent (places : Nat) (point : Bool) (mark : CodePoint) (n : Nat) : List Run :=
  let leading := leadingDigits (places + 1) n
  leading.pointed point ++ [.text (mark :: exponentText leading.exponent)]

def Leading.withoutZeros (leading : Leading) : Leading :=
  let others := (leading.digits.drop 1).reverse.dropWhile (· = .char '0')
  { leading with digits := leading.digits.take 1 ++ others.reverse, zeros := 0 }

/-- A number in fixed places where its digits suffice for that, and with an exponent otherwise.
Zeros at the end are kept where the point is asked for. -/
def shorter (digits : Nat) (point : Bool) (mark : CodePoint) (n : Nat) : List Run :=
  let count := max digits 1
  let leading := leadingDigits count n
  if leading.exponent < count then
    fixedPlaces (if point then count - 1 - leading.exponent else 0) point n
  else
    (if point then leading else leading.withoutZeros).pointed point
      ++ [.text (mark :: exponentText leading.exponent)]

end NodeSettings.Log.Template
