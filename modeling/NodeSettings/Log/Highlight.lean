import NodeSettings.Text.Word

/-!
# What stands out in a log line

On a console the seed entries, the addresses, the keys, the levels and the time of a log line stand
out. A rule looks at a place of the line, with the character before it, and tells how long a match
is there; its matches are found from left to right and do not overlap.
-/

namespace NodeSettings.Log

/-! ### Styles and spans -/

inductive Style where
  | seed
  | address
  | key
  | critical
  | debug
  | error
  | info
  | warning
  | timestamp
  deriving DecidableEq, Repr

def Style.name : Style → Text
  | .seed => "cluster.seed"
  | .address => "cluster.ip"
  | .key => "cluster.key"
  | .critical => "cluster.level_critical"
  | .debug => "cluster.level_debug"
  | .error => "cluster.level_error"
  | .info => "cluster.level_info"
  | .warning => "cluster.level_warning"
  | .timestamp => "cluster.timestamp"

structure Span where
  /-- The number of characters before it. -/
  start : Nat
  /-- The number of characters up to its end. -/
  stop : Nat
  style : Style
  deriving DecidableEq, Repr

/-! ### Finding -/

/-- How long a match is at the start of a text, given the character before it. -/
abbrev Rule := Option CodePoint → Text → Option Nat

/-- The starts and ends of the matches of a rule in a text that follows `before` and begins at
`offset`, the first `skip` characters left out. -/
def findFrom (rule : Rule) (skip offset : Nat) (before : Option CodePoint) : Text → List (Nat × Nat)
  | [] => []
  | c :: rest =>
    match skip with
    | skip + 1 => findFrom rule skip (offset + 1) (some c) rest
    | 0 =>
      match rule before (c :: rest) with
      | some n => (offset, offset + n) :: findFrom rule (n - 1) (offset + 1) (some c) rest
      | none => findFrom rule 0 (offset + 1) (some c) rest

def findAll (rule : Rule) (line : Text) : List (Nat × Nat) := findFrom rule 0 0 none line

/-! ### Rules -/

def isBoundary (before after : Option CodePoint) : Bool :=
  before.any Text.isWord != after.any Text.isWord

/-- A row of one to `most` decimal digits, and the text after it. -/
def digitRow? (most : Nat) (s : Text) : Option (Nat × Text) :=
  let count := (s.takeWhile Text.isDecimalDigit).length
  if 1 ≤ count && count ≤ most then some (count, s.drop count) else none

def wordEnds (s : Text) : Bool := !s.head?.any Text.isWord

def isHostChar (c : CodePoint) : Bool := Text.isWord c || c = '.' || c = '-'

/-- A seed entry: a host and two ports of up to five digits. -/
def seedRule : Rule := fun before s =>
  let host := s.takeWhile isHostChar
  if host.isEmpty || !isBoundary before s.head? then none
  else
    match s.drop host.length with
    | ':' :: ports =>
      match digitRow? 5 ports with
      | some (m, ':' :: dataPort) =>
        match digitRow? 5 dataPort with
        | some (n, after) => if wordEnds after then some (host.length + m + n + 2) else none
        | none => none
      | _ => none
    | _ => none

/-- The length of `count` numbers of up to three digits with dots between them. -/
def dottedLength? : Nat → Text → Option Nat
  | 0, _ => none
  | 1, s =>
    match digitRow? 3 s with
    | some (n, after) => if wordEnds after then some n else none
    | none => none
  | count + 2, s =>
    match digitRow? 3 s with
    | some (n, '.' :: rest) => (dottedLength? (count + 1) rest).map (n + 1 + ·)
    | _ => none

def addressRule : Rule := fun before s =>
  if before.any Text.isWord then none else dottedLength? 4 s

def isKeyLetter (c : CodePoint) : Bool := Text.isCapital c || c = '_'

/-- A key of four or more capital letters and underscores, the first and the last of them letters,
before an equals sign. -/
def keyRule : Rule := fun before s =>
  let key := s.takeWhile isKeyLetter
  if !before.any Text.isWord && 4 ≤ key.length && key.head?.any Text.isCapital
      && key.getLast?.any Text.isCapital && (s.drop key.length).head? = some (.char '=') then
    some key.length
  else none

def wordRule (word : Text) : Rule := fun before s =>
  match Text.dropMark? word s with
  | some after => if !before.any Text.isWord && wordEnds after then some word.length else none
  | none => none

/-- The number of characters up to the end of the first mark of universal time in the first line. -/
def timestampLength? : Text → Option Nat
  | 'U' :: 'T' :: 'C' :: _ => some 3
  | '\n' :: _ => none
  | _ :: rest => (timestampLength? rest).map (· + 1)
  | [] => none

/-- The time at the start of a line, up to the mark of universal time. -/
def timestamps (line : Text) : List (Nat × Nat) :=
  (timestampLength? line).toList.map fun n => (0, n)

/-! ### Lines -/

/-- The matches of each style, in the order in which the styles are applied. -/
def matchesOf (line : Text) : List (Style × List (Nat × Nat)) :=
  [(.seed, findAll seedRule line),
   (.address, findAll addressRule line),
   (.key, findAll keyRule line),
   (.critical, findAll (wordRule "CRITICAL") line),
   (.debug, findAll (wordRule "DEBUG") line),
   (.error, findAll (wordRule "ERROR") line),
   (.info, findAll (wordRule "INFO") line),
   (.warning, findAll (wordRule "WARNING") line),
   (.timestamp, timestamps line)]

def spans (line : Text) : List Span :=
  (matchesOf line).flatMap fun (style, found) => found.map fun m => ⟨m.1, m.2, style⟩

/-- Whether a character moves the cursor of a console without leaving a mark. -/
def isCursorControl (c : CodePoint) : Bool :=
  c = '\x07' || c = '\x08' || c = '\x0B' || c = '\x0C' || c = '\r'

def shownText (line : Text) : Text := line.filter (!isCursorControl ·)

end NodeSettings.Log
