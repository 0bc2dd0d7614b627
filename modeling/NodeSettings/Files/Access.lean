import NodeSettings.Text.Utf8

/-!
# Access to files

Why a file is not opened, read or made, and how that is said: the number of the error, its words
and the path as it was given. Files are asked for by octets, and there are paths that have none: a
path may hold the null character or half a pair that stands for no octet.
-/

namespace NodeSettings

/-! ### Paths in octets -/

/-- Why nothing can be asked for with a path. -/
inductive PathFlaw where
  | null
  /-- A run of halves, the first of which stands for no octet. -/
  | halves (offset : Nat) (first : Fin 0x800) (more : Nat)
  deriving DecidableEq, Repr

/-- Which code points a run of halves is: the only one by its escape, several by their places. -/
def PathFlaw.subject (offset : Nat) (first : Fin 0x800) : Nat → Text
  | 0 =>
    "character '" ++ Text.codeEscape (.half first) ++ "' in position " ++ Decimal.ofNat offset
  | more =>
    "characters in position " ++ Decimal.ofNat offset ++ "-" ++ Decimal.ofNat (offset + more)

def PathFlaw.message : PathFlaw → Text
  | .null => "embedded null byte"
  | .halves offset first more =>
    "'utf-8' codec can't encode " ++ subject offset first more ++ ": surrogates not allowed"

/-- The octet that half a pair stands for: the halves from U+DC80 on stand for the octets above the
basic range that are part of no character. -/
def CodePoint.octet? (unit : Fin 0x800) : Option UInt8 :=
  if 0x480 ≤ unit.val ∧ unit.val < 0x500 then some (UInt8.ofNat (unit.val - 0x400)) else none

namespace PathOctets

/-- The octets of a path; `offset` counts the code points before it. -/
def encodeFrom (offset : Nat) : Text → Except PathFlaw (List UInt8)
  | [] => .ok []
  | .char c :: rest => (encodeFrom (offset + 1) rest).map (String.utf8EncodeChar c ++ ·)
  | .half unit :: rest =>
    match CodePoint.octet? unit with
    | some octet => (encodeFrom (offset + 1) rest).map (octet :: ·)
    | none => .error (.halves offset unit (rest.takeWhile CodePoint.isHalf).length)

/-- The octets that a file is asked for with. -/
def encode (path : Text) : Except PathFlaw (List UInt8) :=
  match encodeFrom 0 path with
  | .error flaw => .error flaw
  | .ok octets => if octets.contains 0 then .error .null else .ok octets

end PathOctets

/-! ### Errors -/

inductive AccessCause where
  | notFound
  | exists
  | notDirectory
  | isDirectory
  /-- A name or the whole path is too long. -/
  | nameTooLong
  /-- Any other cause, such as a file that may not be opened or fails while it is read. -/
  | other (number : Nat) (words : Text)
  deriving DecidableEq, Repr

def AccessCause.number : AccessCause → Nat
  | .notFound => 2
  | .exists => 17
  | .notDirectory => 20
  | .isDirectory => 21
  | .nameTooLong => 36
  | .other number _ => number

def AccessCause.words : AccessCause → Text
  | .notFound => "No such file or directory"
  | .exists => "File exists"
  | .notDirectory => "Not a directory"
  | .isDirectory => "Is a directory"
  | .nameTooLong => "File name too long"
  | .other _ words => words

structure AccessError where
  cause : AccessCause
  /-- The path that was asked for; none where the file had been opened already. -/
  path : Option Text
  deriving DecidableEq, Repr

def AccessError.message (e : AccessError) : Text :=
  let words := "[Errno " ++ Decimal.ofNat e.cause.number ++ "] " ++ e.cause.words
  match e.path with
  | some path => words ++ ": " ++ Text.quoted path
  | none => words

inductive OpenError where
  | access (e : AccessError)
  /-- Nothing can be asked for with the path. -/
  | badPath (flaw : PathFlaw)
  deriving DecidableEq, Repr

/-- What a path leads to: the octets of a file, or why there are none. -/
abbrev FileReader := Text → Except OpenError (List UInt8)

/-- Whether a path leads to a file with a text. -/
def FileReader.Holds (read : FileReader) (path text : Text) : Prop :=
  ∃ octets, read path = .ok octets ∧ Utf8.encode text = some octets

theorem FileReader.holds_ofString {read : FileReader} {path : Text} {s : String}
    (h : read path = .ok (Utf8.ofString s)) : read.Holds path s :=
  ⟨Utf8.ofString s, h, Utf8.encode_ofString s⟩

end NodeSettings
