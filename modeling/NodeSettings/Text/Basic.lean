import NodeSettings.Text.CodePoint

/-!
# Text

A text is the list of its code points, so every function on it recurses on the list and every
statement about it is a statement about lists. String literals stand for texts wherever a text is
expected.
-/

namespace NodeSettings

/-- A text: its code points in order. -/
abbrev Text := List CodePoint

/-! ### Characters -/

namespace Text

/-- The text of a row of characters. -/
def ofChars (chars : List Char) : Text := chars.map .char

theorem ofChars_append (s t : List Char) : ofChars (s ++ t) = ofChars s ++ ofChars t :=
  List.map_append

def ofString (s : String) : Text := ofChars s.toList

theorem ofString_append (s t : String) : ofString (s ++ t) = ofString s ++ ofString t := by
  rw [ofString, String.toList_append, ofChars_append]
  rfl

end Text

/-- A literal is read as the row of its characters. -/
scoped instance : Coe String Text := ⟨Text.ofString⟩

namespace Text

/-- The characters of a text that holds no half of a pair. -/
def chars? : Text → Option (List Char)
  | [] => some []
  | .char c :: rest => (chars? rest).map (c :: ·)
  | .half _ :: _ => none

theorem chars?_eq_some_iff {s : Text} {chars : List Char} :
    chars? s = some chars ↔ s = ofChars chars := by
  induction s generalizing chars with
  | nil => cases chars <;> simp [chars?, ofChars]
  | cons c rest ih =>
    cases c with
    | char c =>
      cases chars with
      | nil => simp [chars?, ofChars]
      | cons d more =>
        simp only [chars?, Option.map_eq_some_iff, List.cons.injEq, ih, ofChars, List.map_cons,
          CodePoint.char.injEq]
        constructor
        · rintro ⟨_, rfl, rfl, rfl⟩
          exact ⟨rfl, rfl⟩
        · rintro ⟨rfl, rfl⟩
          exact ⟨more, rfl, rfl, rfl⟩
    | half unit => cases chars <;> simp [chars?, ofChars]

@[simp] theorem chars?_ofChars (chars : List Char) : chars? (ofChars chars) = some chars :=
  chars?_eq_some_iff.mpr rfl

/-! ### Cutting at a separator -/

/-- The pieces between the occurrences of `sep`; a text without `sep` is its only piece. -/
def splitOn (sep : CodePoint) : Text → List Text
  | [] => [[]]
  | c :: rest =>
    if c = sep then [] :: splitOn sep rest
    else
      match splitOn sep rest with
      | [] => [[c]]
      | piece :: pieces => (c :: piece) :: pieces

theorem splitOn_ne_nil (sep : CodePoint) (s : Text) : splitOn sep s ≠ [] := by
  cases s with
  | nil => simp [splitOn]
  | cons c rest =>
    simp only [splitOn]
    split
    · simp
    · split <;> simp

/-- Cutting the joined text at a separator splits both sides on their own. -/
theorem splitOn_append_cons (sep : CodePoint) (a b : Text) :
    splitOn sep (a ++ sep :: b) = splitOn sep a ++ splitOn sep b := by
  induction a with
  | nil => simp [splitOn]
  | cons c rest ih =>
    by_cases h : c = sep
    · simp [splitOn, h, ih]
    · simp only [List.cons_append, splitOn, h, if_false, ih]
      cases hs : splitOn sep rest with
      | nil => exact absurd hs (splitOn_ne_nil sep rest)
      | cons piece pieces => simp

/-- The text after `mark`, where the text begins with it. -/
def dropMark? : Text → Text → Option Text
  | [], s => some s
  | _ :: _, [] => none
  | m :: mark, c :: s => if m = c then dropMark? mark s else none

theorem dropMark?_eq_some_iff {mark s rest : Text} :
    dropMark? mark s = some rest ↔ s = mark ++ rest := by
  induction mark generalizing s with
  | nil => simp [dropMark?]
  | cons m mark ih =>
    cases s with
    | nil => simp [dropMark?]
    | cons c s =>
      by_cases h : m = c
      · simp [dropMark?, h, ih]
      · simp [dropMark?, h, Ne.symm h]

def holds (mark : Text) : Text → Bool
  | [] => mark.isEmpty
  | c :: rest => (dropMark? mark (c :: rest)).isSome || holds mark rest

/-! ### Lines -/

def isLineEnd (c : CodePoint) : Bool := c = '\r' || c = '\n'

/-- The number of line ends in a text, where a return and the feed after it are one. -/
def lineEnds : Text → Nat
  | [] => 0
  | '\r' :: '\n' :: rest => lineEnds rest + 1
  | c :: rest => if isLineEnd c then lineEnds rest + 1 else lineEnds rest

def unifyLineEnds : Text → Text
  | [] => []
  | '\r' :: '\n' :: rest => '\n' :: unifyLineEnds rest
  | c :: rest => (if c = '\r' then '\n' else c) :: unifyLineEnds rest

end Text

end NodeSettings
