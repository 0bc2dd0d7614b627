import NodeSettings.Text.Blank

/-!
# Values in a document

The value of a binding is quoted, or it is the rest of the line up to a comment. Between quotes a
backslash keeps the character after it from closing the value; which of the pairs stand for a
single character depends on the quote. A reader returns the value and the text after it.
-/

namespace NodeSettings.Document

/-! ### Quoted values -/

def singleEscape? (c : CodePoint) : Option CodePoint :=
  if c = '\\' || c = '\'' then some c else none

def doubleEscape? : CodePoint → Option CodePoint
  | '\\' => some '\\'
  | '\'' => some '\''
  | '"' => some '"'
  | 'a' => some '\x07'
  | 'b' => some '\x08'
  | 'f' => some '\x0C'
  | 'n' => some '\n'
  | 'r' => some '\r'
  | 't' => some '\t'
  | 'v' => some '\x0B'
  | _ => none

/-- A backslash and the character after it, decoded where the pair is an escape. -/
def decodePair (escape? : CodePoint → Option CodePoint) (c : CodePoint) : Text :=
  match escape? c with
  | some d => [d]
  | none => ['\\', c]

/-- The value up to the closing quote, decoded, and the text after that quote. -/
def readQuoted (escape? : CodePoint → Option CodePoint) (quote : CodePoint) :
    Text → Option (Text × Text)
  | [] => none
  | '\\' :: c :: rest =>
    match readQuoted escape? quote rest with
    | some (value, after) => some (decodePair escape? c ++ value, after)
    | none => none
  | c :: rest =>
    if c = quote then some ([], rest)
    else
      match readQuoted escape? quote rest with
      | some (value, after) => some (c :: value, after)
      | none => none

theorem length_lt_of_readQuoted {escape? : CodePoint → Option CodePoint} {quote : CodePoint}
    {s value after : Text} (h : readQuoted escape? quote s = some (value, after)) :
    after.length < s.length := by
  fun_induction readQuoted escape? quote s generalizing value after with
  | case1 => simp at h
  | case2 c rest value' after' hr ih =>
    simp only [Option.some.injEq, Prod.mk.injEq] at h
    have := ih hr
    simp only [List.length_cons, ← h.2]
    omega
  | case3 c rest hr ih => simp at h
  | case4 rest _ =>
    simp only [Option.some.injEq, Prod.mk.injEq] at h
    simp [← h.2]
  | case5 c rest _ _ value' after' hr ih =>
    simp only [Option.some.injEq, Prod.mk.injEq] at h
    have := ih hr
    simp only [List.length_cons, ← h.2]
    omega
  | case6 c rest _ _ hr ih => simp at h

/-! ### Unquoted values -/

/-- The text before the first number sign that follows a blank character. -/
def beforeComment (afterBlank : Bool) : Text → Text
  | [] => []
  | c :: rest =>
    if c = '#' && afterBlank then [] else c :: beforeComment (Text.isBlank c) rest

/-- The characters up to the end of the line. -/
def restOfLine (s : Text) : Text := s.takeWhile (!Text.isLineEnd ·)

def afterLine (s : Text) : Text := s.dropWhile (!Text.isLineEnd ·)

def unquoted (s : Text) : Text := Text.trimEnd (beforeComment false (restOfLine s))

/-! ### Both -/

def readValue? : Text → Option (Text × Text)
  | '\'' :: rest => readQuoted singleEscape? '\'' rest
  | '"' :: rest => readQuoted doubleEscape? '"' rest
  | s => some (unquoted s, afterLine s)

theorem length_dropWhile_le (p : CodePoint → Bool) (s : Text) : (s.dropWhile p).length ≤ s.length :=
  (List.dropWhile_sublist p).length_le

theorem length_le_of_readValue? {s value after : Text} (h : readValue? s = some (value, after)) :
    after.length ≤ s.length := by
  unfold readValue? at h
  split at h
  · have := length_lt_of_readQuoted h
    simp only [List.length_cons]
    omega
  · have := length_lt_of_readQuoted h
    simp only [List.length_cons]
    omega
  · simp only [Option.some.injEq, Prod.mk.injEq] at h
    rw [← h.2]
    exact length_dropWhile_le _ _

end NodeSettings.Document
