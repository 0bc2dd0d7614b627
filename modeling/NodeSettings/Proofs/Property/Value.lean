import NodeSettings.Property.Value
import NodeSettings.Proofs.Text.Numeral

/-!
# Which texts a property takes

The reader of integers says of a text what the reader of numerals says of it. A number of too many
digits is the refusal of integers alone: no text of another kind is refused for its length.
-/

namespace NodeSettings

theorem readInteger_eq_ok_iff {raw : Text} {n : Int} :
    readInteger raw = .ok n ↔ Decimal.parse raw = .ok n := by
  unfold readInteger
  split <;> rename_i h <;> simp [h]

theorem readInteger_eq_tooManyDigits_iff {raw : Text} {count : Nat} :
    readInteger raw = .error (.tooManyDigits count)
      ↔ Decimal.parse raw = .error (.tooManyDigits count) := by
  unfold readInteger
  split <;> rename_i h <;> simp [h]

theorem readInteger_eq_notInteger_iff {raw : Text} :
    readInteger raw = .error (.rejected .notInteger) ↔ ¬ Decimal.IsNumeral raw := by
  rw [← Decimal.parse_eq_notInteger_iff]
  unfold readInteger
  split <;> rename_i h <;> simp [h]

/-- A numeral of more digits than are read. -/
def Oversized (raw : Text) (count : Nat) : Prop :=
  ∃ sign digits, Decimal.Numeral raw sign digits ∧ digits.length = count ∧
    Decimal.maxDigits < count

theorem Kind.read_ne_tooManyDigits {k : Kind} (hk : k ≠ .integer) (raw : Text) (count : Nat) :
    k.read raw ≠ .error (.tooManyDigits count) := by
  intro h
  cases k with
  | integer => exact hk rfl
  | text =>
    simp only [Kind.read, readText] at h
    split at h <;> cases h
  | boolean =>
    simp only [Kind.read, readBoolean] at h
    split at h
    · cases h
    · split at h <;> cases h
  | level =>
    simp only [Kind.read, readLevel] at h
    split at h <;> cases h
  | seeds =>
    simp only [Kind.read, readSeeds] at h
    split at h <;> cases h

theorem Property.read_eq_tooManyDigits_iff {p : Property} {raw : Text} {count : Nat} :
    p.read raw = .error (.tooManyDigits count) ↔ p.kind = .integer ∧ Oversized raw count := by
  have hint : Kind.integer.read raw = .error (.tooManyDigits count) ↔ Oversized raw count :=
    readInteger_eq_tooManyDigits_iff.trans Decimal.parse_eq_tooManyDigits_iff
  have hkind : ∀ k : Kind,
      k.read raw = .error (.tooManyDigits count) ↔ k = .integer ∧ Oversized raw count := by
    intro k
    by_cases hk : k = .integer
    · subst hk
      simpa using hint
    · simp [hk, Kind.read_ne_tooManyDigits hk raw count]
  exact hkind p.kind

end NodeSettings
