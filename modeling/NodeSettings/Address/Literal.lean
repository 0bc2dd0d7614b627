import NodeSettings.Text.Decimal

/-!
# Address literals

A literal address needs no lookup. In the four-part form it is made of numbers up to 255 without
leading zeros. In the grouped form it is made of eight groups of up to four digits of base sixteen,
where one doubled colon may stand for one or more groups of zeros, a four-part address may stand
for the last two groups, and a zone may follow a percent sign.
-/

namespace NodeSettings.Address

/-! ### The four-part form -/

/-- Whether a text is a number up to 255, in at most three digits and without leading zeros. -/
def isPart (s : Text) : Bool :=
  Text.isDigits s && s.length ≤ 3 && (s.length = 1 || s.head? ≠ some (.char '0'))
    && Decimal.value s ≤ 255

def isFourPart (s : Text) : Bool :=
  let parts := Text.splitOn '.' s
  parts.length = 4 && parts.all isPart

/-! ### The grouped form -/

def isGroup (s : Text) : Bool := !s.isEmpty && s.length ≤ 4 && s.all Text.isHexDigit

/-- The number of groups that the texts stand for, where each must be a group. -/
def groupCount? : List Text → Option Nat
  | [] => some 0
  | group :: rest => if isGroup group then (groupCount? rest).map (· + 1) else none

/-- The number of groups that the texts stand for, where the last may be a four-part address. -/
def tailGroupCount? : List Text → Option Nat
  | [] => some 0
  | [last] => if isFourPart last then some 2 else if isGroup last then some 1 else none
  | group :: rest => if isGroup group then (tailGroupCount? rest).map (· + 1) else none

/-- The texts before and after the first doubled colon. -/
def splitGap? : Text → Option (Text × Text)
  | ':' :: ':' :: rest => some ([], rest)
  | c :: rest => (splitGap? rest).map fun (before, after) => (c :: before, after)
  | [] => none

def sideGroups (side : Text) : List Text := if side.isEmpty then [] else Text.splitOn ':' side

def isGrouped (s : Text) : Bool :=
  match splitGap? s with
  | some (before, after) =>
    match groupCount? (sideGroups before), tailGroupCount? (sideGroups after) with
    | some m, some n => m + n ≤ 7
    | _, _ => false
  | none => tailGroupCount? (Text.splitOn ':' s) = some 8

def isZone (s : Text) : Bool := !s.isEmpty && !s.contains '%'

def isZonedGrouped (s : Text) : Bool :=
  match s.dropWhile (· ≠ .char '%') with
  | [] => isGrouped s
  | _ :: zone => isGrouped (s.takeWhile (· ≠ .char '%')) && isZone zone

/-! ### Both forms -/

def isLiteral (s : Text) : Bool := !s.contains '/' && (isFourPart s || isZonedGrouped s)

end NodeSettings.Address
