import NodeSettings.Text.Decimal
import NodeSettings.Text.Quoted

/-!
# Text in octets

The encoding of characters in one to four octets. Half a pair is no character and has no octets,
so a text that holds one is not encoded. The reader is a machine that takes one octet at a time:
between characters it knows nothing, within one it knows how many octets are owed and the bounds of
the next. The first octet that no text can continue with is the flaw of the whole.
-/

namespace NodeSettings.Utf8

/-! ### Flaws -/

inductive Reason where
  | invalidStart
  | invalidContinuation
  | unexpectedEnd
  deriving DecidableEq, Repr

def Reason.message : Reason → Text
  | .invalidStart => "invalid start byte"
  | .invalidContinuation => "invalid continuation byte"
  | .unexpectedEnd => "unexpected end of data"

/-- The place where a row of octets ceases to be a text. -/
structure Flaw where
  offset : Nat
  first : UInt8
  /-- The octets of that character that could still begin one. -/
  more : List UInt8
  reason : Reason
  deriving DecidableEq, Repr

def Flaw.octets (flaw : Flaw) : List UInt8 := flaw.first :: flaw.more

/-- Which octets the flaw is about: the first by its value and place, or several by their places. -/
def Flaw.subject (flaw : Flaw) : Text :=
  if flaw.more.isEmpty then
    "byte 0x" ++ Text.hexDigits 2 flaw.first.toNat ++ " in position " ++ Decimal.ofNat flaw.offset
  else
    "bytes in position " ++ Decimal.ofNat flaw.offset ++ "-"
      ++ Decimal.ofNat (flaw.offset + flaw.more.length)

def Flaw.message (flaw : Flaw) : Text :=
  "'utf-8' codec can't decode " ++ flaw.subject ++ ": " ++ flaw.reason.message

/-! ### The machine -/

/-- What is known within a character. -/
structure Pending where
  bits : Nat
  /-- The number of octets still to come. -/
  owed : Nat
  low : Nat
  high : Nat
  deriving DecidableEq, Repr

/-- What the first octet of a character tells; bounds narrower than those of a common continuation
keep out the forms that are longer than needed, the surrogates and the numbers above the last code
point. -/
def Pending.ofFirst? (octet : UInt8) : Option Pending :=
  let n := octet.toNat
  if n < 0x80 then some ⟨n, 0, 0x80, 0xBF⟩
  else if n < 0xC2 then none
  else if n < 0xE0 then some ⟨n - 0xC0, 1, 0x80, 0xBF⟩
  else if n = 0xE0 then some ⟨n - 0xE0, 2, 0xA0, 0xBF⟩
  else if n = 0xED then some ⟨n - 0xE0, 2, 0x80, 0x9F⟩
  else if n < 0xF0 then some ⟨n - 0xE0, 2, 0x80, 0xBF⟩
  else if n = 0xF0 then some ⟨n - 0xF0, 3, 0x90, 0xBF⟩
  else if n < 0xF4 then some ⟨n - 0xF0, 3, 0x80, 0xBF⟩
  else if n = 0xF4 then some ⟨n - 0xF0, 3, 0x80, 0x8F⟩
  else none

/-- What is known after one more octet, where that octet is within the bounds. -/
def Pending.push? (pending : Pending) (octet : UInt8) : Option Pending :=
  if pending.low ≤ octet.toNat ∧ octet.toNat ≤ pending.high then
    some ⟨pending.bits * 64 + (octet.toNat - 0x80), pending.owed - 1, 0x80, 0xBF⟩
  else none

/-- Where the machine stands: between characters, or within one whose first octets are given. -/
inductive State where
  | between
  | within (first : UInt8) (more : List UInt8) (pending : Pending)
  deriving DecidableEq, Repr

/-- Runs the machine from a state; `offset` counts the octets of the characters already read. -/
def decodeFrom (state : State) (offset : Nat) : List UInt8 → Except Flaw Text
  | [] =>
    match state with
    | .between => .ok []
    | .within first more _ => .error ⟨offset, first, more, .unexpectedEnd⟩
  | octet :: rest =>
    match state with
    | .between =>
      match Pending.ofFirst? octet with
      | none => .error ⟨offset, octet, [], .invalidStart⟩
      | some pending =>
        if pending.owed = 0 then
          (decodeFrom .between (offset + 1) rest).map (CodePoint.ofNat pending.bits :: ·)
        else decodeFrom (.within octet [] pending) offset rest
    | .within first more pending =>
      match pending.push? octet with
      | none => .error ⟨offset, first, more, .invalidContinuation⟩
      | some pending =>
        if pending.owed = 0 then
          (decodeFrom .between (offset + more.length + 2) rest).map
            (CodePoint.ofNat pending.bits :: ·)
        else decodeFrom (.within first (more ++ [octet]) pending) offset rest

/-! ### Whole texts -/

/-- The text that the octets encode, or the first place where they encode none. -/
def decode (octets : List UInt8) : Except Flaw Text := decodeFrom .between 0 octets

/-- The octets of a row of characters. -/
def ofChars (chars : List Char) : List UInt8 := chars.flatMap String.utf8EncodeChar

def ofString (s : String) : List UInt8 := ofChars s.toList

/-- The octets of a text, unless it holds half a pair. -/
def encode (s : Text) : Option (List UInt8) := s.chars?.map ofChars

theorem encode_ofString (s : String) : encode s = some (ofString s) := by
  rw [encode, Text.ofString, Text.chars?_ofChars]
  rfl

end NodeSettings.Utf8
