import NodeSettings.Proofs.Property.Overlay
import NodeSettings.Proofs.Property.Value
import NodeSettings.Startup

/-!
# Integers in a properties file

An integer is written with a sign that suits it, with any number of zeros in front of its digits,
and with blank characters around the whole. The reader of integers takes every text that is so
written, up to a number of digits with the zeros among them, and gives the integer; it takes no
other text. A text that is no numeral is refused, and the refusal names the key and the text as it
stands in the file.
-/

namespace NodeSettings

namespace Decimal

/-! ### Spellings -/

/-- The signs that an integer is written with: none or a plus unless it is negative, a minus unless
it is positive, so zero has all of them. -/
def Sign.Suits : Sign → Int → Prop
  | .minus, n => n ≤ 0
  | _, n => 0 ≤ n

instance (sign : Sign) (n : Int) : Decidable (sign.Suits n) :=
  match sign with
  | .minus => inferInstanceAs (Decidable (n ≤ 0))
  | .none | .plus => inferInstanceAs (Decidable (0 ≤ n))

theorem Sign.apply_natAbs {sign : Sign} {n : Int} (h : sign.Suits n) : sign.apply n.natAbs = n := by
  cases sign with
  | none => exact Int.natAbs_of_nonneg h
  | plus => exact Int.natAbs_of_nonneg h
  | minus =>
    have hn : n ≤ 0 := h
    show -(n.natAbs : Int) = n
    omega

theorem Sign.suits_apply (sign : Sign) (n : Nat) : sign.Suits (sign.apply n) := by
  cases sign with
  | none => exact Int.natCast_nonneg n
  | plus => exact Int.natCast_nonneg n
  | minus => exact Int.neg_nonpos_of_nonneg (Int.natCast_nonneg n)

/-- A way to write an integer down. -/
structure Spelling (n : Int) where
  sign : Sign
  zeros : Nat
  before : Text
  after : Text
  suits : sign.Suits n
  blankBefore : ∀ c ∈ before, Text.isBlank c
  blankAfter : ∀ c ∈ after, Text.isBlank c

namespace Spelling

variable {n : Int}

def digits (w : Spelling n) : Text := List.replicate w.zeros (.char '0') ++ ofNat n.natAbs

def text (w : Spelling n) : Text := w.before ++ (w.sign.text ++ w.digits) ++ w.after

theorem numeral (w : Spelling n) : Numeral w.text w.sign w.digits :=
  numeral_padded w.sign (isDigits_zeros_append w.zeros (isDigits_ofNat n.natAbs)) w.blankBefore
    w.blankAfter

theorem apply_value (w : Spelling n) : w.sign.apply (value w.digits) = n := by
  rw [digits, value_zeros_append, value_ofNat, Sign.apply_natAbs w.suits]

/-- A numeral is a spelling of what it stands for. -/
theorem exists_of_numeral {s digits : Text} {sign : Sign} (h : Numeral s sign digits) :
    ∃ w : Spelling (sign.apply (value digits)), w.text = s := by
  obtain ⟨before, after, hbefore, hafter, hs⟩ := Text.exists_blanks s
  obtain ⟨zeros, hzeros⟩ := exists_zeros h.digits
  refine ⟨⟨sign, zeros, before, after, sign.suits_apply _, hbefore, hafter⟩, ?_⟩
  rw [h.trim] at hs
  rw [text, Spelling.digits, natAbs_apply, ← hzeros]
  exact hs

end Spelling

theorem parse_spelling_eq_ok_iff {n : Int} (w : Spelling n) :
    parse w.text = .ok n ↔ w.digits.length ≤ maxDigits := by
  rw [parse_of_numeral w.numeral, w.apply_value]
  split <;> rename_i hlen
  · exact iff_of_false (by simp) (by omega)
  · exact iff_of_true rfl (by omega)

end Decimal

/-! ### Refusals -/

theorem Property.read_of_not_isNumeral {p : Property} (hp : p.kind = .integer) {raw : Text}
    (h : ¬ Decimal.IsNumeral raw) : p.read raw = .error (.rejected .notInteger) := by
  have hkind : ∀ k : Kind, k = .integer → k.read raw = .error (.rejected .notInteger) := by
    rintro k rfl
    exact readInteger_eq_notInteger_iff.mpr h
  exact hkind p.kind hp

theorem applyProperties_singleton_of_rejected {p : Property} {raw : Text} {why : Rejection}
    (h : p.read raw = .error (.rejected why)) (c : NodeConfig) :
    applyProperties [(p.key, raw)] c = (c, .error (.refused (.rejected p raw why))) := by
  rw [applyProperties, Overlay.apply_singleton_of_refused h c]
  rfl

/-! ### Exact reading -/

/-- The spellings of an integer are read as that integer if their digits are not too many, nothing
else is read, and a text that is no numeral is refused under the key of its property. -/
theorem readInteger_by_spelling {p : Property} (hp : p.kind = .integer) (c : NodeConfig) :
    (∀ (n : Int) (w : Decimal.Spelling n),
      readInteger w.text = .ok n ↔ w.digits.length ≤ Decimal.maxDigits) ∧
    (∀ (raw : Text) (n : Int), readInteger raw = .ok n → ∃ w : Decimal.Spelling n, w.text = raw) ∧
    (∀ raw : Text, ¬ Decimal.IsNumeral raw →
      readInteger raw = .error (.rejected .notInteger) ∧
      ∃ e, applyProperties [(p.key, raw)] c = (c, .error (.refused e)) ∧ e.key = p.key ∧
        e.raw = raw ∧
        e.message = p.key ++ " must be an integer, got " ++ Text.quoted raw) ∧
    ∀ (raw : Text) (d : CodePoint), d ∈ Text.trim raw → d ≠ '+' → d ≠ '-' → Text.isDigit d = false →
      ¬ Decimal.IsNumeral raw := by
  refine ⟨fun n w => ?_, fun raw n h => ?_, fun raw h => ?_, fun raw d hd hplus hminus hdigit => ?_⟩
  · rw [readInteger_eq_ok_iff, Decimal.parse_spelling_eq_ok_iff]
  · obtain ⟨sign, digits, hn, -, rfl⟩ := Decimal.parse_eq_ok_iff.mp (readInteger_eq_ok_iff.mp h)
    exact Decimal.Spelling.exists_of_numeral hn
  · have hread := Property.read_of_not_isNumeral hp h
    exact ⟨readInteger_eq_notInteger_iff.mpr h, .rejected p raw .notInteger,
      applyProperties_singleton_of_rejected hread c, rfl, rfl, rfl⟩
  · intro hn
    rcases hn.sign_or_digit hd with (h | h) | h
    · exact hplus h
    · exact hminus h
    · rw [hdigit] at h
      cases h

/-- As many zeros as are read in front of a digit, and a number with an underscore. -/
theorem readInteger_by_spelling_underscore :
    let w : Decimal.Spelling (-7) := ⟨.minus, 4299, "\t", " \u3000", by decide,
      List.all_eq_true.mp (by decide), List.all_eq_true.mp (by decide)⟩
    let raw : Text := " 1_000\n"
    Property.maxLogs.kind = .integer ∧ w.digits.length ≤ Decimal.maxDigits ∧
      readInteger w.text = .ok (-7) ∧ (∃ v : Decimal.Spelling (-7), v.text = w.text) ∧
      .char '_' ∈ Text.trim raw ∧ Text.isDigit '_' = false ∧ ¬ Decimal.IsNumeral raw ∧
      readInteger raw = .error (.rejected .notInteger) ∧
      ∃ e, applyProperties [(Property.maxLogs.key, raw)] {} = ({}, .error (.refused e)) ∧
        e.key = Property.maxLogs.key ∧ e.raw = raw ∧
        e.message = ("MAX_NUMBER_OF_LOGS must be an integer, got ' 1_000\\n'" : Text) := by
  intro w raw
  have hp : Property.maxLogs.kind = .integer := rfl
  have hlength : w.digits.length ≤ Decimal.maxDigits := by
    rw [Decimal.Spelling.digits, List.length_append, List.length_replicate]
    decide
  have hmem : .char '_' ∈ Text.trim raw := by decide
  obtain ⟨hread, hspelled, hrefused, hchars⟩ := readInteger_by_spelling hp {}
  have hw : readInteger w.text = .ok (-7) := (hread (-7) w).mpr hlength
  have hnot : ¬ Decimal.IsNumeral raw := hchars raw '_' hmem (by decide) (by decide) (by decide)
  obtain ⟨hraw, e, he, hkey, hkept, hmessage⟩ := hrefused raw hnot
  exact ⟨hp, hlength, hw, hspelled w.text (-7) hw, hmem, by decide, hnot, hraw, e, he, hkey, hkept,
    hmessage.trans (by decide)⟩

end NodeSettings
