import NodeSettings.Dump
import NodeSettings.Proofs.Text.Cut
import Mathlib.Data.List.Basic

/-!
# The parts of a dump

The value of a property is dumped after its kind alone. Every part of a dump is made of characters
below 128 only, whatever strings it shows: what is escaped is written in digits and letters of that
range, and what is not is of that range itself.
-/

namespace NodeSettings

def Text.IsAscii (s : Text) : Prop := ∀ c ∈ s, c.toNat < 0x80

namespace Text

/-! ### Texts put together -/

theorem isAscii_of_all {s : Text} (h : s.all (·.toNat < 0x80)) : IsAscii s := by
  intro c hc
  exact of_decide_eq_true (List.all_eq_true.mp h c hc)

theorem isAscii_nil : IsAscii [] := fun _ h => absurd h List.not_mem_nil

theorem isAscii_cons {c : CodePoint} {s : Text} : IsAscii (c :: s) ↔ c.toNat < 0x80 ∧ IsAscii s :=
  List.forall_mem_cons

theorem isAscii_append {s t : Text} : IsAscii (s ++ t) ↔ IsAscii s ∧ IsAscii t :=
  List.forall_mem_append

theorem isAscii_flatMap {α : Type} {f : α → Text} {list : List α} (h : ∀ a ∈ list, IsAscii (f a)) :
    IsAscii (list.flatMap f) := by
  intro c hc
  obtain ⟨a, ha, hca⟩ := List.mem_flatMap.mp hc
  exact h a ha c hca

theorem isAscii_replicate {c : CodePoint} (h : c.toNat < 0x80) (n : Nat) :
    IsAscii (List.replicate n c) := by
  intro d hd
  rw [List.eq_of_mem_replicate hd]
  exact h

theorem isAscii_intercalate {separator : Text} (hs : IsAscii separator) {pieces : List Text}
    (h : ∀ piece ∈ pieces, IsAscii piece) : IsAscii (List.intercalate separator pieces) :=
  forall_mem_intercalate hs h

/-! ### Digits -/

theorem isAscii_digitChar {n : Nat} (h : n < 16) : IsAscii (ofChars [n.digitChar]) := by
  have hall : ∀ n < 16, (Nat.digitChar n).toNat < 0x80 := by decide
  exact isAscii_cons.mpr ⟨hall n h, isAscii_nil⟩

theorem isAscii_toDigits {b : Nat} (hb : 1 < b) (hb16 : b ≤ 16) (n : Nat) :
    IsAscii (ofChars (Nat.toDigits b n)) := by
  induction n using Nat.strongRecOn with
  | ind n ih =>
    rw [Nat.toDigits_eq_if hb]
    split_ifs with hn
    · exact isAscii_digitChar (by omega)
    · have hsmaller : n / b < n := Nat.div_lt_self (by omega) hb
      have hlast : n % b < b := Nat.mod_lt n (by omega)
      rw [ofChars_append]
      exact isAscii_append.mpr ⟨ih (n / b) hsmaller, isAscii_digitChar (by omega)⟩

theorem isAscii_hexDigits (width n : Nat) : IsAscii (hexDigits width n) :=
  isAscii_append.mpr ⟨isAscii_replicate (by decide) _, isAscii_toDigits (by decide) (by decide) n⟩

end Text

namespace Dump

open Text

/-! ### The parts of a dump -/

theorem isAscii_escape (c : CodePoint) : IsAscii (escape c) := by
  have hnamed : ∀ e : CodePoint, e.toNat < 0x80 → IsAscii [.char '\\', e] := by
    intro e he
    exact isAscii_cons.mpr ⟨by decide, isAscii_cons.mpr ⟨he, isAscii_nil⟩⟩
  unfold escape
  split_ifs with hself hn hr ht hb hf hplain
  · simp only [Bool.or_eq_true, decide_eq_true_eq] at hself
    rcases hself with rfl | rfl <;> exact hnamed _ (by decide)
  · exact hnamed 'n' (by decide)
  · exact hnamed 'r' (by decide)
  · exact hnamed 't' (by decide)
  · exact hnamed 'b' (by decide)
  · exact hnamed 'f' (by decide)
  · simp only [isPlain, Bool.and_eq_true, decide_eq_true_eq] at hplain
    exact isAscii_cons.mpr ⟨by omega, isAscii_nil⟩
  · exact isAscii_flatMap fun n _ =>
      isAscii_append.mpr ⟨hnamed 'u' (by decide), isAscii_hexDigits 4 n⟩

theorem isAscii_string (s : Text) : IsAscii (string s) :=
  isAscii_append.mpr
    ⟨isAscii_cons.mpr ⟨by decide, isAscii_flatMap fun c _ => isAscii_escape c⟩,
      isAscii_cons.mpr ⟨by decide, isAscii_nil⟩⟩

theorem isAscii_ofInt (n : Int) : IsAscii (Decimal.ofInt n) := by
  cases n with
  | ofNat n => exact isAscii_toDigits (by decide) (by decide) n
  | negSucc n =>
    exact isAscii_cons.mpr ⟨by decide, isAscii_toDigits (by decide) (by decide) (n + 1)⟩

theorem isAscii_block (depth : Nat) {opening closing : CodePoint} (ho : opening.toNat < 0x80)
    (hc : closing.toNat < 0x80) {items : List Text} (h : ∀ item ∈ items, IsAscii item) :
    IsAscii (block depth opening closing items) := by
  have hgap : IsAscii (List.replicate depth (.char ' ')) := isAscii_replicate (by decide) depth
  have hdeeper : IsAscii ("  " : Text) := isAscii_replicate (c := ' ') (by decide) 2
  have hseparator :
      IsAscii (.char ',' :: .char '\n' :: List.replicate depth (.char ' ') ++ ("  " : Text)) := by
    simp only [isAscii_append, isAscii_cons]
    exact ⟨⟨by decide, by decide, hgap⟩, hdeeper⟩
  have hitems := isAscii_intercalate hseparator h
  simp only [block, isAscii_append, isAscii_cons]
  exact ⟨⟨⟨⟨⟨ho, by decide, hgap⟩, hdeeper⟩, hitems⟩, by decide, hgap⟩, hc, isAscii_nil⟩

theorem isAscii_strings (depth : Nat) (entries : List Text) : IsAscii (strings depth entries) := by
  cases entries with
  | nil => exact isAscii_cons.mpr ⟨by decide, isAscii_cons.mpr ⟨by decide, isAscii_nil⟩⟩
  | cons e es =>
    refine isAscii_block depth (by decide) (by decide) fun item hitem => ?_
    obtain ⟨entry, -, rfl⟩ := List.mem_map.mp hitem
    exact isAscii_string entry

theorem isAscii_boolean (b : Bool) : IsAscii (boolean b) := by
  cases b <;> exact isAscii_of_all (by decide)

/-- What holds of each kind of value and how it is shown holds of the value of every property. -/
theorem value_cases {motive : (k : Kind) → k.Value → Text → Prop}
    (text : ∀ s, motive .text s (string s))
    (integer : ∀ n, motive .integer n (Decimal.ofInt n))
    (boolean : ∀ b, motive .boolean b (Dump.boolean b))
    (level : ∀ l : Consistency, motive .level l (string l.name))
    (seeds : ∀ entries, motive .seeds entries (strings 2 entries))
    (p : Property) (c : NodeConfig) : motive p.kind (p.get c) (value p c) := by
  unfold value
  generalize p.get c = v
  revert v
  generalize p.kind = k
  intro v
  cases k with
  | text => exact text v
  | integer => exact integer v
  | boolean => exact boolean v
  | level => exact level v
  | seeds => exact seeds v

theorem isAscii_value (p : Property) (c : NodeConfig) : IsAscii (value p c) :=
  value_cases (motive := fun _ _ shown => IsAscii shown) isAscii_string isAscii_ofInt
    isAscii_boolean (fun level => isAscii_string level.name) (isAscii_strings 2) p c

/-- The dump of a configuration is made of characters below 128. -/
theorem isAscii_dump (c : NodeConfig) : IsAscii c.dump := by
  refine isAscii_block 0 (by decide) (by decide) fun item hitem => ?_
  obtain ⟨p, -, rfl⟩ := List.mem_map.mp hitem
  have hbetween : IsAscii (": " : Text) := isAscii_of_all (by decide)
  exact isAscii_append.mpr ⟨isAscii_append.mpr ⟨isAscii_string p.name, hbetween⟩, isAscii_value p c⟩

end Dump

end NodeSettings
