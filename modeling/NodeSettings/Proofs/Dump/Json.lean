import NodeSettings.Dump

/-!
# JSON

The values of JSON and their reader. The reader knows nothing of how a configuration is dumped: it
takes blank characters between the parts of a value, every escape of a string and integers of any
sign. Two escapes for the halves of a pair are one character if they stand side by side, and an
escape for half a pair on its own is that half. Numbers with a fraction or an exponent are no values
here, and a text that holds one is refused; so is an integer of more than `Decimal.maxDigits`
digits.
-/

namespace NodeSettings

/-- A value; the members of an object stand in their order, each with its name. -/
inductive Json where
  | null
  | boolean (b : Bool)
  | integer (n : Int)
  | string (s : Text)
  | array (items : List Json)
  | object (members : List (Text × Json))

namespace Json

def isBlank (c : CodePoint) : Bool := c = ' ' || c = '\t' || c = '\n' || c = '\r'

def skip (s : Text) : Text := s.dropWhile isBlank

/-! ### Strings -/

def hexValue? (c : CodePoint) : Option Nat :=
  if Text.isDigit c then some (c.toNat - '0'.toNat)
  else if 'a' ≤ c && c ≤ 'f' then some (c.toNat - 'a'.toNat + 10)
  else if 'A' ≤ c && c ≤ 'F' then some (c.toNat - 'A'.toNat + 10)
  else none

/-- The number that hexadecimal digits stand for. -/
def hexNumber? (digits : Text) : Option Nat :=
  digits.foldlM (fun n d => (hexValue? d).map (16 * n + ·)) 0

/-- The character that is meant by a character behind a backslash. -/
def named? (c : CodePoint) : Option CodePoint :=
  if c = '"' || c = '\\' || c = '/' then some c
  else if c = 'b' then some (.char '\x08')
  else if c = 'f' then some (.char '\x0C')
  else if c = 'n' then some (.char '\n')
  else if c = 'r' then some (.char '\r')
  else if c = 't' then some (.char '\t')
  else none

/-- A piece of a string: a code point, or a number of sixteen bits in an escape. -/
inductive Piece where
  | plain (c : CodePoint)
  | unit (n : Nat)
  deriving DecidableEq, Repr

/-- The piece that is meant by what stands behind a backslash, and what follows that. -/
def readEscape? : Text → Option (Piece × Text)
  | [] => none
  | c :: rest =>
    if c = 'u' then
      match rest with
      | d₁ :: d₂ :: d₃ :: d₄ :: rest =>
        (hexNumber? [d₁, d₂, d₃, d₄]).map fun n => (.unit n, rest)
      | _ => none
    else (named? c).map fun c => (.plain c, rest)

theorem length_lt_of_readEscape? {s rest : Text} {piece : Piece}
    (h : readEscape? s = some (piece, rest)) : rest.length < s.length := by
  unfold readEscape? at h
  split at h
  · cases h
  · split at h
    · split at h
      · simp only [Option.map_eq_some_iff, Prod.mk.injEq] at h
        obtain ⟨n, -, -, rfl⟩ := h
        simp only [List.length_cons]
        omega
      · cases h
    · simp only [Option.map_eq_some_iff, Prod.mk.injEq] at h
      obtain ⟨c, -, -, rfl⟩ := h
      exact Nat.lt_succ_self _

/-- The pieces of a string up to its closing quote, and what stands behind that. -/
def readPieces? : Text → Option (List Piece × Text)
  | [] => none
  | c :: rest =>
    if c = '"' then some ([], rest)
    else if c = '\\' then
      match _h : readEscape? rest with
      | some (piece, behind) => (readPieces? behind).map (Prod.map (piece :: ·) id)
      | none => none
    else if c.toNat < 0x20 then none
    else (readPieces? rest).map (Prod.map (.plain c :: ·) id)
termination_by s => s.length
decreasing_by
  · exact Nat.lt_succ_of_lt (length_lt_of_readEscape? _h)
  · exact Nat.lt_succ_self _

/-- Whether two numbers are the halves of a pair. -/
def ArePair (high low : Nat) : Prop :=
  (0xD800 ≤ high ∧ high < 0xDC00) ∧ 0xDC00 ≤ low ∧ low < 0xE000

instance (high low : Nat) : Decidable (ArePair high low) :=
  inferInstanceAs (Decidable ((0xD800 ≤ high ∧ high < 0xDC00) ∧ 0xDC00 ≤ low ∧ low < 0xE000))

/-- The text of pieces, where the halves of a pair are one character if their numbers stand side by
side. -/
def join : List Piece → Text
  | [] => []
  | .unit high :: .unit low :: rest =>
    if ArePair high low then
      CodePoint.ofNat (0x10000 + (high - 0xD800) * 0x400 + (low - 0xDC00)) :: join rest
    else CodePoint.ofNat high :: join (.unit low :: rest)
  | .plain c :: rest => c :: join rest
  | .unit n :: rest => CodePoint.ofNat n :: join rest

/-- Reads a string whose opening quote has been read. -/
def readString? (s : Text) : Option (Text × Text) := (readPieces? s).map (Prod.map join id)

/-! ### Numbers -/

/-- The digits that a number begins with: a zero alone, or else all of them. -/
def leadingDigits : Text → Text
  | '0' :: _ => ['0']
  | s => s.takeWhile Text.isDigit

def readNatural? (s : Text) : Option (Nat × Text) :=
  let digits := leadingDigits s
  if digits.isEmpty || Decimal.maxDigits < digits.length then none
  else some (Decimal.value digits, s.drop digits.length)

def readInteger? : Text → Option (Int × Text)
  | '-' :: rest => (readNatural? rest).map (Prod.map (fun n : Nat => -(n : Int)) id)
  | s => (readNatural? s).map (Prod.map Int.ofNat id)

/-- Reads a value that is neither a string nor in brackets. -/
def readPlain? (s : Text) : Option (Json × Text) :=
  ((Text.dropMark? "true" s).map (boolean true, ·)).or <|
    ((Text.dropMark? "false" s).map (boolean false, ·)).or <|
      ((Text.dropMark? "null" s).map (null, ·)).or <|
        (readInteger? s).map (Prod.map integer id)

/-! ### Arrays and objects -/

theorem length_skip_le (s : Text) : (skip s).length ≤ s.length :=
  (List.dropWhile_sublist isBlank).length_le

section
variable {α : Type}

/-- Reads one item or more, up to the closing bracket. No item is empty, so that what is left to
read gets shorter with each. -/
def readItems? (read : Text → Option (α × Text)) (closing : CodePoint) (s : Text) :
    Option (List α × Text) :=
  match read (skip s) with
  | none => none
  | some (item, behind) =>
    if _hb : behind.length < s.length then
      match _hs : skip behind with
      | [] => none
      | c :: rest =>
        if c = ',' then (readItems? read closing rest).map (Prod.map (item :: ·) id)
        else if c = closing then some ([item], rest)
        else none
    else none
termination_by s.length
decreasing_by
  have hskip := length_skip_le behind
  rw [_hs, List.length_cons] at hskip
  omega

/-- Reads what stands between two brackets, of which the first has been read. -/
def readSequence? (read : Text → Option (α × Text)) (closing : CodePoint) (s : Text) :
    Option (List α × Text) :=
  match skip s with
  | [] => none
  | c :: rest => if c = closing then some ([], rest) else readItems? read closing s

/-- Reads a name in quotes, a colon and a value. -/
def readMember? (read : Text → Option (α × Text)) : Text → Option ((Text × α) × Text)
  | '"' :: s =>
    match readString? s with
    | none => none
    | some (name, behind) =>
      match skip behind with
      | ':' :: rest => (read (skip rest)).map (Prod.map (name, ·) id)
      | _ => none
  | _ => none

end

/-! ### Values -/

/-- Reads a value with at most `depth` brackets around any part of it. -/
def readValue? : Nat → Text → Option (Json × Text)
  | 0, _ => none
  | depth + 1, s =>
    match s with
    | '"' :: rest => (readString? rest).map (Prod.map string id)
    | '[' :: rest => (readSequence? (readValue? depth) ']' rest).map (Prod.map array id)
    | '\x7b' :: rest =>
      (readSequence? (readMember? (readValue? depth)) '\x7d' rest).map (Prod.map object id)
    | s => readPlain? s

/-- The value that a text holds, blank characters around it aside. -/
def read? (s : Text) : Option Json :=
  match readValue? s.length (skip s) with
  | some (value, rest) => if (skip rest).isEmpty then some value else none
  | none => none

end Json

end NodeSettings
