import NodeSettings.Document.Value

/-!
# Entries of a document

A document is a row of entries: bindings of a key, with or without a value, comments, and lines
that are neither. An entry takes the blank lines before it along. A reader that cannot go on tells
where it stands, and the entry ends with the line there. Every entry takes at least one character,
so a document is read in finitely many.
-/

namespace NodeSettings.Document

/-! ### The parts of a binding -/

/-- The text after the word that may mark a binding for export. -/
def skipExport (s : Text) : Text :=
  match Text.dropMark? "export" s with
  | some rest => if rest.head?.any Text.isGap then rest.dropWhile Text.isGap else s
  | none => s

def isKeyChar (c : CodePoint) : Bool := c ≠ '=' && c ≠ '#' && !Text.isBlank c

/-- The key at the start of a text and the text after it; a comment has no key. -/
def readKey? (s : Text) : Option (Option Text × Text) :=
  match s with
  | '#' :: _ => some (none, s)
  | '\'' :: rest =>
    let key := rest.takeWhile (· ≠ .char '\'')
    match rest.dropWhile (· ≠ .char '\'') with
    | _ :: after => if key.isEmpty then none else some (some key, after)
    | [] => none
  | _ =>
    let key := s.takeWhile isKeyChar
    if key.isEmpty then none else some (some key, s.dropWhile isKeyChar)

/-- The value after an equals sign and the text after it, or where the reader is stuck. A number
sign that follows a gap leaves the value empty. -/
def readAssigned (s : Text) : Except Text (Text × Text) :=
  let rest := s.dropWhile Text.isGap
  if s.head?.any Text.isGap && rest.head? = some (.char '#') then .ok ([], rest)
  else
    match readValue? rest with
    | some result => .ok result
    | none => .error rest

/-- The value of a binding, where there is an equals sign, and the text after it. -/
def readOptionalValue (s : Text) : Except Text (Option Text × Text) :=
  match s with
  | '=' :: rest =>
    match readAssigned rest with
    | .ok (value, after) => .ok (some value, after)
    | .error stuck => .error stuck
  | _ => .ok (none, s)

def skipComment (s : Text) : Text :=
  let rest := s.dropWhile Text.isGap
  if rest.head? = some (.char '#') then afterLine rest else rest

/-- The text after the end of the line, if nothing but a comment precedes that end. -/
def readLineEnd? (s : Text) : Option Text :=
  match skipComment s with
  | [] => some []
  | '\r' :: '\n' :: rest => some rest
  | c :: rest => if Text.isLineEnd c then some rest else none

/-! ### Bindings -/

/-- A key with the value that it is given, if any. -/
abbrev Pair := Text × Option Text

/-- The binding or comment at the start of a text and the text after it, or where the reader is
stuck. -/
def readBinding (s : Text) : Except Text (Option Pair × Text) :=
  let s := skipExport s
  match readKey? s with
  | none => .error s
  | some (key?, rest) =>
    match readOptionalValue (rest.dropWhile Text.isGap) with
    | .error stuck => .error stuck
    | .ok (value?, rest) =>
      match readLineEnd? rest with
      | none => .error rest
      | some after => .ok (key?.map fun key => (key, value?), after)

/-! ### Entries -/

inductive Entry where
  | nothing
  | binding (pair : Pair)
  | malformed
  deriving DecidableEq, Repr

/-- The text after the line in which the reader is stuck. -/
def skipLine (s : Text) : Text := (afterLine s).drop 1

def readEntry (s : Text) : Entry × Text :=
  match s.dropWhile Text.isBlank with
  | [] => (.nothing, [])
  | c :: body =>
    match readBinding (c :: body) with
    | .ok (some pair, rest) => (.binding pair, rest)
    | .ok (none, rest) => (.nothing, rest)
    | .error stuck => (.malformed, skipLine stuck)

/-! ### Every entry takes a character -/

theorem length_skipExport_le (s : Text) : (skipExport s).length ≤ s.length := by
  unfold skipExport
  split
  · rename_i rest h
    split
    · have hs := Text.dropMark?_eq_some_iff.1 h
      have := length_dropWhile_le Text.isGap rest
      rw [hs, List.length_append]
      omega
    · exact Nat.le_refl _
  · exact Nat.le_refl _

theorem length_lt_of_readKey? {s key rest : Text} (h : readKey? s = some (some key, rest)) :
    rest.length < s.length := by
  unfold readKey? at h
  split at h
  · simp at h
  · rename_i tail
    have hle := length_dropWhile_le (· ≠ .char '\'') tail
    simp only at h
    split at h
    · rename_i after hd
      rw [hd] at hle
      split at h
      · simp at h
      · simp only [Option.some.injEq, Prod.mk.injEq] at h
        rw [← h.2]
        simp only [List.length_cons] at hle ⊢
        omega
    · simp at h
  · simp only at h
    split at h
    · simp at h
    · rename_i hne
      simp only [Option.some.injEq, Prod.mk.injEq] at h
      have hs : s.takeWhile isKeyChar ++ s.dropWhile isKeyChar = s :=
        List.takeWhile_append_dropWhile
      have hlen := congrArg List.length hs
      rw [List.length_append] at hlen
      have : 0 < (s.takeWhile isKeyChar).length := by
        rw [List.length_pos_iff]
        simpa using hne
      rw [← h.2]
      omega

theorem eq_of_readKey?_none {s rest : Text} (h : readKey? s = some (none, rest)) :
    rest = s ∧ s.head? = some (.char '#') := by
  unfold readKey? at h
  split at h
  · simp only [Option.some.injEq, Prod.mk.injEq, true_and] at h
    simp [← h]
  · simp only at h
    split at h
    · split at h <;> simp at h
    · simp at h
  · simp only at h
    split at h <;> simp at h

theorem length_le_of_readOptionalValue {s rest : Text} {value? : Option Text}
    (h : readOptionalValue s = .ok (value?, rest)) : rest.length ≤ s.length := by
  unfold readOptionalValue at h
  split at h
  · rename_i tail
    split at h
    · rename_i value after ha
      simp only [Except.ok.injEq, Prod.mk.injEq] at h
      rw [← h.2]
      have hle := length_dropWhile_le Text.isGap tail
      unfold readAssigned at ha
      simp only at ha
      split at ha
      · simp only [Except.ok.injEq, Prod.mk.injEq] at ha
        rw [← ha.2]
        simp only [List.length_cons]
        omega
      · split at ha
        · rename_i result hr
          simp only [Except.ok.injEq] at ha
          rw [ha] at hr
          have := length_le_of_readValue? hr
          simp only [List.length_cons]
          omega
        · simp at ha
    · simp at h
  · simp only [Except.ok.injEq, Prod.mk.injEq] at h
    exact Nat.le_of_eq (congrArg List.length h.2.symm)

theorem readOptionalValue_hash (s : Text) : readOptionalValue ('#' :: s) = .ok (none, '#' :: s) :=
  rfl

theorem length_skipComment_le (s : Text) : (skipComment s).length ≤ s.length := by
  have h₁ := length_dropWhile_le Text.isGap s
  have h₂ := length_dropWhile_le (!Text.isLineEnd ·) (s.dropWhile Text.isGap)
  unfold skipComment afterLine
  simp only
  split <;> omega

theorem length_le_of_readLineEnd? {s after : Text} (h : readLineEnd? s = some after) :
    after.length ≤ (skipComment s).length := by
  unfold readLineEnd? at h
  split at h
  · simp only [Option.some.injEq] at h
    simp [← h]
  · rename_i rest hs
    simp only [Option.some.injEq] at h
    simp only [hs, ← h, List.length_cons]
    omega
  · rename_i c rest _ hs
    split at h
    · simp only [Option.some.injEq] at h
      simp only [hs, ← h, List.length_cons]
      omega
    · simp at h

theorem length_skipComment_lt {s : Text} (h : s.head? = some (.char '#')) :
    (skipComment s).length < s.length := by
  cases s with
  | nil => simp at h
  | cons c rest =>
    simp only [List.head?_cons, Option.some.injEq] at h
    subst h
    have hgap : Text.isGap '#' = false := by decide
    have hend : Text.isLineEnd '#' = false := by decide
    have := length_dropWhile_le (!Text.isLineEnd ·) rest
    simp only [skipComment, afterLine, List.dropWhile_cons, hgap, hend, Bool.not_false,
      List.head?_cons, if_true, List.length_cons, Bool.false_eq_true, if_false]
    omega

theorem length_lt_of_readBinding {s rest : Text} {pair? : Option Pair}
    (h : readBinding s = .ok (pair?, rest)) : rest.length < s.length := by
  unfold readBinding at h
  simp only at h
  have hs := length_skipExport_le s
  split at h
  · simp at h
  · rename_i key? tail hk
    have hgap := length_dropWhile_le Text.isGap tail
    split at h
    · simp at h
    · rename_i value? mid hv
      have hmid := length_le_of_readOptionalValue hv
      split at h
      · simp at h
      · rename_i after hl
        simp only [Except.ok.injEq, Prod.mk.injEq] at h
        rw [← h.2]
        have hafter := length_le_of_readLineEnd? hl
        have hcomment := length_skipComment_le mid
        cases key? with
        | some key =>
          have := length_lt_of_readKey? hk
          omega
        | none =>
          obtain ⟨ht, hhead⟩ := eq_of_readKey?_none hk
          have hlen := congrArg List.length ht
          rw [← ht] at hhead
          cases tail with
          | nil => simp at hhead
          | cons c more =>
            simp only [List.head?_cons, Option.some.injEq] at hhead
            subst hhead
            have hgap' : Text.isGap '#' = false := by decide
            rw [List.dropWhile_cons, hgap', if_neg Bool.false_ne_true, readOptionalValue_hash] at hv
            simp only [Except.ok.injEq, Prod.mk.injEq] at hv
            rw [← hv.2] at hafter
            have := length_skipComment_lt (s := '#' :: more) rfl
            omega

theorem length_skipLine_le (s : Text) : (skipLine s).length ≤ s.length - 1 := by
  have := length_dropWhile_le (!Text.isLineEnd ·) s
  simp only [skipLine, afterLine, List.length_drop]
  omega

theorem length_le_of_readBinding_error {s stuck : Text} (h : readBinding s = .error stuck) :
    stuck.length ≤ s.length := by
  unfold readBinding at h
  simp only at h
  have hs := length_skipExport_le s
  split at h
  · simp only [Except.error.injEq] at h
    rw [← h]
    exact hs
  · rename_i key? tail hk
    have htail : tail.length ≤ (skipExport s).length := by
      cases key? with
      | some key => exact Nat.le_of_lt (length_lt_of_readKey? hk)
      | none => exact Nat.le_of_eq (congrArg List.length (eq_of_readKey?_none hk).1)
    have hgap := length_dropWhile_le Text.isGap tail
    split at h
    · rename_i at_ hv
      simp only [Except.error.injEq] at h
      rw [← h]
      unfold readOptionalValue at hv
      split at hv
      · rename_i more hm
        have hle := length_dropWhile_le Text.isGap more
        split at hv
        · simp at hv
        · rename_i stuck' ha
          simp only [Except.error.injEq] at hv
          unfold readAssigned at ha
          simp only at ha
          split at ha
          · simp at ha
          · split at ha
            · simp at ha
            · simp only [Except.error.injEq] at ha
              rw [hm, List.length_cons] at hgap
              rw [← hv, ← ha]
              omega
      · simp at hv
    · rename_i value? mid hv
      have hmid := length_le_of_readOptionalValue hv
      split at h
      · simp only [Except.error.injEq] at h
        rw [← h]
        omega
      · simp at h

/-- An entry takes at least one character. -/
theorem length_readEntry_lt {s : Text} (h : s ≠ []) : (readEntry s).2.length < s.length := by
  have hpos := List.length_pos_iff.2 h
  have hle := length_dropWhile_le Text.isBlank s
  unfold readEntry
  split
  · exact hpos
  · rename_i c body hb
    rw [hb] at hle
    split
    · have := length_lt_of_readBinding ‹_›
      simp only
      omega
    · have := length_lt_of_readBinding ‹_›
      simp only
      omega
    · rename_i stuck hstuck
      have h₁ := length_le_of_readBinding_error hstuck
      have h₂ := length_skipLine_le stuck
      simp only
      omega

end NodeSettings.Document
