import NodeSettings.Text.Basic

/-!
# Text that is safe on a terminal

What is logged may hold text from outside, which must not control the terminal that shows it. The
escape sequences are taken out whole, and of what remains every control character of the basic
range but the tab and the feed. A sequence that is not complete loses its escape character only.
-/

namespace NodeSettings.Log

/-! ### Escape sequences -/

def escapeChar : CodePoint := '\x1B'

def isParameter (c : CodePoint) : Bool := '0' ≤ c && c ≤ '?'

def isIntermediate (c : CodePoint) : Bool := ' ' ≤ c && c ≤ '/'

def isFinal (c : CodePoint) : Bool := '@' ≤ c && c ≤ '~'

def isShort (c : CodePoint) : Bool := ('@' ≤ c && c ≤ 'Z') || ('\\' ≤ c && c ≤ '_')

def afterSequence? : Text → Option Text
  | '[' :: rest =>
    match (rest.dropWhile isParameter).dropWhile isIntermediate with
    | c :: after => if isFinal c then some after else none
    | [] => none
  | c :: rest => if isShort c then some rest else none
  | [] => none

theorem length_lt_of_afterSequence? {s after : Text} (h : afterSequence? s = some after) :
    after.length < s.length := by
  unfold afterSequence? at h
  split at h
  · rename_i rest
    have h₁ := (List.dropWhile_sublist isParameter (l := rest)).length_le
    have h₂ := (List.dropWhile_sublist isIntermediate (l := rest.dropWhile isParameter)).length_le
    split at h
    · rename_i c tail ht
      rw [ht] at h₂
      split at h
      · simp only [Option.some.injEq] at h
        simp only [List.length_cons, ← h] at h₂ ⊢
        omega
      · simp at h
    · simp at h
  · split at h
    · simp only [Option.some.injEq] at h
      simp [← h]
    · simp at h
  · simp at h

def removeSequences : Text → Text
  | [] => []
  | c :: rest =>
    if c = escapeChar then
      match _h : afterSequence? rest with
      | some after => removeSequences after
      | none => c :: removeSequences rest
    else c :: removeSequences rest
termination_by s => s.length
decreasing_by
  · have := length_lt_of_afterSequence? _h
    simp only [List.length_cons]
    omega
  · simp
  · simp

/-- A text without escape characters has no sequences to lose. -/
theorem removeSequences_eq_self {s : Text} (h : escapeChar ∉ s) : removeSequences s = s := by
  induction s with
  | nil => simp [removeSequences]
  | cons c rest ih =>
    simp only [List.mem_cons, not_or] at h
    simp [removeSequences, Ne.symm h.1, ih h.2]

/-! ### Control characters -/

def isRemovedControl (c : CodePoint) : Bool :=
  c.toNat ≤ 0x08 || (0x0B ≤ c.toNat && c.toNat ≤ 0x1F) || c.toNat = 0x7F

def sanitize (s : Text) : Text := (removeSequences s).filter (!isRemovedControl ·)

theorem isRemovedControl_of_mem_sanitize {s : Text} {c : CodePoint} (h : c ∈ sanitize s) :
    isRemovedControl c = false := by
  simpa using (List.mem_filter.mp h).2

theorem escapeChar_not_mem_sanitize (s : Text) : escapeChar ∉ sanitize s := fun h =>
  absurd (isRemovedControl_of_mem_sanitize h) (by decide)

end NodeSettings.Log
