/-!
# Code points

A text is made of code points. Beside the characters there are the two thousand and forty-eight
halves of pairs, which stand for no character on their own: a text may hold them in any order, and
a high half with a low half behind it is still two code points.
-/

namespace NodeSettings

inductive CodePoint where
  | char (c : Char)
  /-- One of the code points from U+D800 on that stand for half a character. -/
  | half (unit : Fin 0x800)
  deriving DecidableEq, Repr

/-- A character stands for its code point. -/
scoped instance : Coe Char CodePoint := ⟨.char⟩

namespace CodePoint

/-! ### Numbers -/

def toNat : CodePoint → Nat
  | .char c => c.toNat
  | .half unit => 0xD800 + unit.val

/-- The code point with a number; a number above the last one has that of zero. -/
def ofNat (n : Nat) : CodePoint :=
  if h : 0xD800 ≤ n ∧ n < 0xE000 then .half ⟨n - 0xD800, by omega⟩ else .char (Char.ofNat n)

@[simp] theorem toNat_char (c : Char) : (char c).toNat = c.toNat := rfl

@[simp] theorem toNat_half (unit : Fin 0x800) : (half unit).toNat = 0xD800 + unit.val := rfl

/-- No character has the number of a half. -/
theorem char_toNat_lt_or_le (c : Char) : c.toNat < 0xD800 ∨ 0xE000 ≤ c.toNat := by
  rcases c.valid with h | ⟨h, -⟩
  · exact .inl h
  · exact .inr h

theorem ofNat_char (c : Char) : ofNat c.toNat = .char c := by
  have h := char_toNat_lt_or_le c
  rw [ofNat, dif_neg (by omega), Char.ofNat_toNat]

theorem ofNat_half (unit : Fin 0x800) : ofNat (0xD800 + unit.val) = .half unit := by
  rw [ofNat, dif_pos ⟨by omega, by omega⟩]
  exact congrArg half (Fin.ext (Nat.add_sub_cancel_left ..))

@[simp] theorem ofNat_toNat (c : CodePoint) : ofNat c.toNat = c := by
  cases c with
  | char c => exact ofNat_char c
  | half unit => exact ofNat_half unit

theorem toNat_inj {c d : CodePoint} : c.toNat = d.toNat ↔ c = d :=
  ⟨fun h => by rw [← ofNat_toNat c, h, ofNat_toNat], fun h => h ▸ rfl⟩

theorem toNat_lt (c : CodePoint) : c.toNat < 0x110000 := by
  cases c with
  | char c =>
    rcases c.valid with h | ⟨-, h⟩
    · exact Nat.lt_trans h (by decide)
    · exact h
  | half unit =>
    rw [toNat_half]
    omega

/-! ### Order -/

instance : LE CodePoint := ⟨fun c d => c.toNat ≤ d.toNat⟩

instance (c d : CodePoint) : Decidable (c ≤ d) := inferInstanceAs (Decidable (c.toNat ≤ d.toNat))

theorem le_def {c d : CodePoint} : c ≤ d ↔ c.toNat ≤ d.toNat := Iff.rfl

/-! ### Halves -/

def isHalf : CodePoint → Bool
  | .char _ => false
  | .half _ => true

/-- Whether a code point is the first half of a pair. -/
def isHigh : CodePoint → Bool
  | .char _ => false
  | .half unit => unit.val < 0x400

/-- Whether a code point is the second half of a pair. -/
def isLow : CodePoint → Bool
  | .char _ => false
  | .half unit => 0x400 ≤ unit.val

theorem isHigh_iff {c : CodePoint} : c.isHigh ↔ 0xD800 ≤ c.toNat ∧ c.toNat < 0xDC00 := by
  cases c with
  | char c =>
    have h := char_toNat_lt_or_le c
    simp only [isHigh, Bool.false_eq_true, toNat_char, false_iff]
    omega
  | half unit =>
    simp only [isHigh, decide_eq_true_eq, toNat_half]
    omega

theorem isLow_iff {c : CodePoint} : c.isLow ↔ 0xDC00 ≤ c.toNat ∧ c.toNat < 0xE000 := by
  cases c with
  | char c =>
    have h := char_toNat_lt_or_le c
    simp only [isLow, Bool.false_eq_true, toNat_char, false_iff]
    omega
  | half unit =>
    simp only [isLow, decide_eq_true_eq, toNat_half]
    omega

/-! ### Letters and digits of the basic range -/

def isAlphanum : CodePoint → Bool
  | .char c => c.isAlphanum
  | .half _ => false

def toUpper : CodePoint → CodePoint
  | .char c => .char c.toUpper
  | .half unit => .half unit

def toLower : CodePoint → CodePoint
  | .char c => .char c.toLower
  | .half unit => .half unit

end CodePoint

end NodeSettings
