import NodeSettings.Text.CharClass

/-!
# Blank characters and trimming

The blank characters are the white space of the character standard together with the four
information separators. Trimming takes them off the ends of a text and leaves those within.
-/

namespace NodeSettings.Text

/-! ### The class -/

def blankRanges : Ranges :=
  [(0x9, 0xD), (0x1C, 0x20), (0x85, 0x85), (0xA0, 0xA0), (0x1680, 0x1680), (0x2000, 0x200A),
   (0x2028, 0x2029), (0x202F, 0x202F), (0x205F, 0x205F), (0x3000, 0x3000)]

def isBlank (c : CodePoint) : Bool := blankRanges.has c

def isGap (c : CodePoint) : Bool := isBlank c && !isLineEnd c

theorem isBlank_of_isLineEnd (c : CodePoint) (h : isLineEnd c) : isBlank c := by
  simp only [isLineEnd, Bool.or_eq_true, decide_eq_true_eq] at h
  rcases h with rfl | rfl <;> decide

theorem isLineEnd_of_not_isBlank {c : CodePoint} (h : isBlank c = false) : isLineEnd c = false := by
  cases hl : isLineEnd c with
  | false => rfl
  | true =>
    have hb := isBlank_of_isLineEnd c hl
    rw [h] at hb
    cases hb

theorem isBlank_of_isGap {c : CodePoint} (h : isGap c) : isBlank c := by
  simp only [isGap, Bool.and_eq_true] at h
  exact h.1

theorem isLineEnd_of_isGap {c : CodePoint} (h : isGap c) : isLineEnd c = false := by
  simp only [isGap, Bool.and_eq_true, Bool.not_eq_true'] at h
  exact h.2

/-! ### Trimming -/

def trimStart (s : Text) : Text := s.dropWhile isBlank

def trimEnd (s : Text) : Text := (s.reverse.dropWhile isBlank).reverse

def trim (s : Text) : Text := trimEnd (trimStart s)

end NodeSettings.Text
