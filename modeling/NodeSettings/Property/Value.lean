import NodeSettings.Property.Basic
import NodeSettings.Seed.List
import NodeSettings.Text.Decimal

/-!
# The values of properties

Each kind of property has its own reader. All of them trim the text first, so blank characters
around a value never matter. A text that a reader does not take is refused with a reason; a number
with more digits than are read is refused in a way of its own, as no property is at fault.
-/

namespace NodeSettings

inductive Rejection where
  | notInteger
  | notBoolean
  | empty
  | unknownLevel
  | malformedSeed (e : MalformedSeed)
  deriving DecidableEq, Repr

inductive Refusal where
  | rejected (why : Rejection)
  | tooManyDigits (count : Nat)
  deriving DecidableEq, Repr

/-! ### Readers -/

def readInteger (raw : Text) : Except Refusal Int :=
  match Decimal.parse raw with
  | .ok n => .ok n
  | .error .notInteger => .error (.rejected .notInteger)
  | .error (.tooManyDigits count) => .error (.tooManyDigits count)

/-- The truth value in a text, in any case. -/
def readBoolean (raw : Text) : Except Refusal Bool :=
  let word := Text.fold (Text.trim raw)
  if word = ("true" : Text) then .ok true
  else if word = ("false" : Text) then .ok false
  else .error (.rejected .notBoolean)

/-- The text without the blank characters around it, unless nothing is left. -/
def readText (raw : Text) : Except Refusal Text :=
  if (Text.trim raw).isEmpty then .error (.rejected .empty) else .ok (Text.trim raw)

def readLevel (raw : Text) : Except Refusal Consistency :=
  match Consistency.parse? raw with
  | some level => .ok level
  | none => .error (.rejected .unknownLevel)

def readSeeds (raw : Text) : Except Refusal (List Text) :=
  match Seed.parseList raw with
  | .ok entries => .ok entries
  | .error e => .error (.rejected (.malformedSeed e))

def Kind.read : (k : Kind) → Text → Except Refusal k.Value
  | .text => readText
  | .integer => readInteger
  | .boolean => readBoolean
  | .level => readLevel
  | .seeds => readSeeds

def Property.read (p : Property) (raw : Text) : Except Refusal p.kind.Value := p.kind.read raw

/-! ### Messages -/

def unknownLevelMessage (raw : Text) : Text :=
  "Unsupported consistency level " ++ Text.quoted raw ++ ", expected one of "
    ++ List.intercalate (", " : Text) (Consistency.all.map Consistency.name)

/-- Why the text `raw` is no value of the property with the given key, in words. -/
def Rejection.message (key raw : Text) : Rejection → Text
  | .notInteger => key ++ " must be an integer, got " ++ Text.quoted raw
  | .notBoolean => key ++ " must be true or false, got " ++ Text.quoted raw
  | .empty => key ++ " must not be empty"
  | .unknownLevel => key ++ ": " ++ unknownLevelMessage raw
  | .malformedSeed e => key ++ ": " ++ e.message

end NodeSettings
