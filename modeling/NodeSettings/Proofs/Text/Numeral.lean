import NodeSettings.Proofs.Text.Cut
import NodeSettings.Text.Decimal
import Mathlib.Algebra.Group.Nat.Defs

/-!
# Numerals

A numeral is a sign and a row of digits, blank characters around the whole aside. The reader of
integers takes exactly the numerals of at most `maxDigits` digits, and gives what they stand for. A
longer numeral is refused with the number of its digits, and a text that is no numeral as such. The
digits that are written for a number stand for that number, and no zero leads them.
-/

namespace NodeSettings.Decimal

inductive Sign where
  | none
  | plus
  | minus
  deriving DecidableEq, Repr

namespace Sign

def text : Sign → Text
  | .none => []
  | .plus => ['+']
  | .minus => ['-']

def apply : Sign → Nat → Int
  | .minus, n => -n
  | _, n => n

end Sign

structure Numeral (s : Text) (sign : Sign) (digits : Text) : Prop where
  trim : Text.trim s = sign.text ++ digits
  digits : Text.isDigits digits

def IsNumeral (s : Text) : Prop := ∃ sign digits, Numeral s sign digits

/-! ### Signs -/

theorem splitSign_of_isDigits {digits : Text} (h : Text.isDigits digits) :
    splitSign digits = (false, digits) := by
  have hm := Text.not_mem_of_isDigits h (show Text.isDigit '-' = false by decide)
  have hp := Text.not_mem_of_isDigits h (show Text.isDigit '+' = false by decide)
  unfold splitSign
  split
  · simp at hm
  · simp at hp
  · rfl

theorem splitSign_append (sign : Sign) {digits : Text} (h : Text.isDigits digits) :
    splitSign (sign.text ++ digits) = (decide (sign = .minus), digits) := by
  cases sign with
  | none => exact splitSign_of_isDigits h
  | plus => rfl
  | minus => rfl

theorem exists_sign (s : Text) : ∃ sign : Sign, s = sign.text ++ (splitSign s).2 := by
  unfold splitSign
  split
  · exact ⟨.minus, rfl⟩
  · exact ⟨.plus, rfl⟩
  · exact ⟨.none, rfl⟩

theorem eq_of_mem_sign {sign : Sign} {c : CodePoint} (h : c ∈ sign.text) : c = '+' ∨ c = '-' := by
  cases sign with
  | none => cases h
  | plus => exact .inl (List.mem_singleton.mp h)
  | minus => exact .inr (List.mem_singleton.mp h)

theorem isBlank_of_mem_sign {sign : Sign} {c : CodePoint} (h : c ∈ sign.text) :
    Text.isBlank c = false := by
  rcases eq_of_mem_sign h with rfl | rfl
  · rfl
  · rfl

theorem numeral_padded (sign : Sign) {digits before after : Text} (h : Text.isDigits digits)
    (hbefore : ∀ c ∈ before, Text.isBlank c) (hafter : ∀ c ∈ after, Text.isBlank c) :
    Numeral (before ++ (sign.text ++ digits) ++ after) sign digits := by
  have hvisible : ∀ c ∈ sign.text ++ digits, Text.isBlank c = false :=
    List.forall_mem_append.mpr ⟨fun _ => isBlank_of_mem_sign, Text.isBlank_of_isDigits h⟩
  refine ⟨?_, h⟩
  rw [Text.trim_append hbefore hafter, Text.trim_of_forall hvisible]

theorem numeral_of_isDigits {digits : Text} (h : Text.isDigits digits) :
    Numeral digits .none digits :=
  ⟨Text.trim_of_forall (Text.isBlank_of_isDigits h), h⟩

theorem isNumeral_iff {s : Text} : IsNumeral s ↔ Text.isDigits (splitSign (Text.trim s)).2 := by
  constructor
  · rintro ⟨sign, digits, h⟩
    rw [h.trim, splitSign_append sign h.digits]
    exact h.digits
  · intro h
    obtain ⟨sign, hs⟩ := exists_sign (Text.trim s)
    exact ⟨sign, _, hs, h⟩

instance (s : Text) : Decidable (IsNumeral s) := decidable_of_iff _ isNumeral_iff.symm

example : ¬ IsNumeral "1 2" ∧ ¬ IsNumeral "\u0661" ∧ ¬ IsNumeral "+" ∧ IsNumeral " -0\t" := by
  decide

/-- Within the blank characters around it, a numeral has no character but its sign and digits. -/
theorem IsNumeral.sign_or_digit {s : Text} (h : IsNumeral s) {c : CodePoint}
    (hc : c ∈ Text.trim s) :
    (c = '+' ∨ c = '-') ∨ Text.isDigit c := by
  obtain ⟨sign, digits, hn⟩ := h
  rw [hn.trim, List.mem_append] at hc
  rcases hc with hsign | hdigits
  · exact .inl (eq_of_mem_sign hsign)
  · exact .inr (Text.isDigit_of_mem hn.digits hdigits)

/-! ### What the reader takes -/

theorem parse_of_numeral {s digits : Text} {sign : Sign} (h : Numeral s sign digits) :
    parse s = if maxDigits < digits.length then .error (.tooManyDigits digits.length)
      else .ok (sign.apply (value digits)) := by
  have hv : (if decide (sign = .minus) then -(value digits : Int) else value digits)
      = sign.apply (value digits) := by
    cases sign <;> rfl
  simp only [parse, h.trim, splitSign_append sign h.digits, h.digits, Bool.not_true,
    Bool.false_eq_true, if_false, hv]

theorem parse_eq_notInteger_iff {s : Text} : parse s = .error .notInteger ↔ ¬ IsNumeral s := by
  constructor
  · rintro h ⟨sign, digits, hn⟩
    rw [parse_of_numeral hn] at h
    split at h <;> cases h
  · intro h
    have hd : Text.isDigits (splitSign (Text.trim s)).2 = false := by
      simpa using mt isNumeral_iff.mpr h
    simp only [parse, hd, Bool.not_false, if_true]

theorem isNumeral_of_parse {s : Text} (h : parse s ≠ .error .notInteger) : IsNumeral s :=
  Decidable.not_not.mp (mt parse_eq_notInteger_iff.mpr h)

theorem parse_eq_ok_iff {s : Text} {n : Int} :
    parse s = .ok n ↔ ∃ sign digits, Numeral s sign digits ∧ digits.length ≤ maxDigits ∧
      n = sign.apply (value digits) := by
  constructor
  · intro h
    obtain ⟨sign, digits, hn⟩ := isNumeral_of_parse (by simp [h] : parse s ≠ .error .notInteger)
    rw [parse_of_numeral hn] at h
    split at h
    · cases h
    · rename_i hlen
      cases h
      exact ⟨sign, digits, hn, by omega, rfl⟩
  · rintro ⟨sign, digits, hn, hlen, rfl⟩
    rw [parse_of_numeral hn, if_neg (by omega)]

theorem parse_eq_tooManyDigits_iff {s : Text} {count : Nat} :
    parse s = .error (.tooManyDigits count) ↔ ∃ sign digits, Numeral s sign digits ∧
      digits.length = count ∧ maxDigits < count := by
  constructor
  · intro h
    obtain ⟨sign, digits, hn⟩ := isNumeral_of_parse (by simp [h] : parse s ≠ .error .notInteger)
    rw [parse_of_numeral hn] at h
    split at h
    · rename_i hlen
      cases h
      exact ⟨sign, digits, hn, rfl, hlen⟩
    · cases h
  · rintro ⟨sign, digits, hn, rfl, hlen⟩
    rw [parse_of_numeral hn, if_pos hlen]

/-! ### The digits of a number -/

theorem isDigits_ofNat (n : Nat) : Text.isDigits (ofNat n) := by
  simp only [Text.isDigits, Bool.and_eq_true, Bool.not_eq_true', List.isEmpty_eq_false_iff,
    List.all_eq_true]
  refine ⟨fun hnil => Nat.toDigits_ne_nil (List.map_eq_nil_iff.mp hnil), fun c hc => ?_⟩
  obtain ⟨d, hmem, rfl⟩ := List.mem_map.mp hc
  have hd : d.isDigit := Nat.isDigit_of_mem_toDigits (by decide) (by decide) hmem
  simpa [Text.isDigit, CodePoint.le_def, Char.isDigit, UInt32.le_iff_toNat_le] using hd

theorem exists_ofNat (n : Nat) : ∃ c rest, ofNat n = c :: rest ∧ Text.isDigit c := by
  have hn := isDigits_ofNat n
  cases h : ofNat n with
  | nil => simp [h, Text.isDigits] at hn
  | cons c rest =>
    rw [h] at hn
    exact ⟨c, rest, rfl, Text.isDigit_of_mem hn List.mem_cons_self⟩

@[simp] theorem valueFrom_nil (n : Nat) : valueFrom n [] = n := rfl

theorem valueFrom_cons (n : Nat) (c : CodePoint) (rest : Text) :
    valueFrom n (c :: rest) = valueFrom (10 * n + (c.toNat - '0'.toNat)) rest := by
  rw [valueFrom, List.foldl_cons, valueFrom]

theorem valueFrom_ofChars (n : Nat) (digits : List Char) :
    valueFrom n (Text.ofChars digits) = Nat.ofDigitChars 10 digits n := by
  induction digits generalizing n with
  | nil => rfl
  | cons c rest ih => exact ih (10 * n + (c.toNat - '0'.toNat))

theorem value_ofNat (n : Nat) : value (ofNat n) = n := by
  rw [value, ofNat, valueFrom_ofChars, Nat.ofDigitChars_ten_toDigits]

theorem length_ofNat_le_iff {n k : Nat} (hk : 0 < k) : (ofNat n).length ≤ k ↔ n < 10 ^ k := by
  rw [ofNat, Text.ofChars, List.length_map]
  exact Nat.length_toDigits_le_iff (by decide) hk

/-- Reading on from a number leaves room for as many numbers as the digits have places. -/
theorem valueFrom_lt {digits : Text} (h : ∀ c ∈ digits, Text.isDigit c) (n : Nat) :
    valueFrom n digits < (n + 1) * 10 ^ digits.length := by
  induction digits generalizing n with
  | nil => simp
  | cons c rest ih =>
    have hc := Text.toNat_of_isDigit (h c List.mem_cons_self)
    have hzero : '0'.toNat = 48 := rfl
    have hnext : 10 * n + (c.toNat - '0'.toNat) + 1 ≤ (n + 1) * 10 := by omega
    rw [valueFrom_cons, List.length_cons, Nat.pow_succ']
    calc valueFrom (10 * n + (c.toNat - '0'.toNat)) rest
        < (10 * n + (c.toNat - '0'.toNat) + 1) * 10 ^ rest.length :=
          ih (fun d hd => h d (List.mem_cons_of_mem c hd)) _
      _ ≤ (n + 1) * 10 * 10 ^ rest.length := Nat.mul_le_mul_right _ hnext
      _ = (n + 1) * (10 * 10 ^ rest.length) := Nat.mul_assoc ..

theorem value_lt {digits : Text} (h : ∀ c ∈ digits, Text.isDigit c) :
    value digits < 10 ^ digits.length := by
  have hlt := valueFrom_lt h 0
  rw [Nat.zero_add, Nat.one_mul] at hlt
  exact hlt

theorem natAbs_apply (sign : Sign) (n : Nat) : (sign.apply n).natAbs = n := by
  cases sign with
  | minus => exact Int.natAbs_neg n
  | _ => rfl

/-- What is read has no more digits than may be read. -/
theorem natAbs_lt_of_parse {s : Text} {n : Int} (h : parse s = .ok n) :
    n.natAbs < 10 ^ maxDigits := by
  obtain ⟨sign, digits, hn, hlen, rfl⟩ := parse_eq_ok_iff.mp h
  rw [natAbs_apply]
  calc value digits < 10 ^ digits.length := value_lt fun c hc => Text.isDigit_of_mem hn.digits hc
    _ ≤ 10 ^ maxDigits := Nat.pow_le_pow_right (by decide) hlen

theorem eq_nil_of_ofNat {n : Nat} {rest : Text}
    (h : ofNat n = .char '0' :: rest) : rest = [] := by
  have hdigits : ∀ c ∈ rest, Text.isDigit c := by
    intro c hc
    have hn := isDigits_ofNat n
    rw [h] at hn
    exact Text.isDigit_of_mem hn (List.mem_cons_of_mem _ hc)
  have hn : n = value rest := by
    rw [← value_ofNat n, h]
    rfl
  cases rest with
  | nil => rfl
  | cons c rest =>
    -- Without the zero the number would have a place less than it is written with.
    have hlt := value_lt hdigits
    rw [← hn, ← length_ofNat_le_iff (by simp), h] at hlt
    simp only [List.length_cons] at hlt
    omega

/-! ### Leading zeros -/

theorem value_zeros_append (zeros : Nat) (digits : Text) :
    value (List.replicate zeros (.char '0') ++ digits) = value digits := by
  induction zeros with
  | zero => rfl
  | succ zeros ih => rw [← ih, List.replicate_succ, List.cons_append, value, valueFrom_cons]; rfl

theorem isDigits_zeros_append (zeros : Nat) {digits : Text} (h : Text.isDigits digits) :
    Text.isDigits (List.replicate zeros (.char '0') ++ digits) := by
  simp only [Text.isDigits, Bool.and_eq_true, Bool.not_eq_true', List.isEmpty_eq_false_iff,
    List.all_eq_true] at h ⊢
  refine ⟨List.append_ne_nil_of_right_ne_nil _ h.1, fun c hc => ?_⟩
  rcases List.mem_append.mp hc with hz | hd
  · rw [List.eq_of_mem_replicate hz]
    rfl
  · exact h.2 c hd

theorem digitChar_of_isDigit {c : CodePoint} (h : Text.isDigit c) :
    CodePoint.char (Nat.digitChar (c.toNat - '0'.toNat)) = c := by
  have hc := Text.toNat_of_isDigit h
  have hzero : '0'.toNat = 48 := rfl
  apply CodePoint.toNat_inj.mp
  rw [CodePoint.toNat_char, Nat.toNat_digitChar_of_lt_ten (by omega)]
  omega

/-- Reading on from a number other than zero appends to its digits. -/
theorem ofNat_valueFrom {digits : Text} (h : ∀ c ∈ digits, Text.isDigit c) {n : Nat}
    (hn : 0 < n) : ofNat (valueFrom n digits) = ofNat n ++ digits := by
  induction digits generalizing n with
  | nil => rw [valueFrom_nil, List.append_nil]
  | cons c rest ih =>
    have hdigit := h c List.mem_cons_self
    have hc := Text.toNat_of_isDigit hdigit
    have hzero : '0'.toNat = 48 := rfl
    have hlt : c.toNat - '0'.toNat < 10 := by omega
    have hnext : ofNat (10 * n + (c.toNat - '0'.toNat)) = ofNat n ++ [c] := by
      rw [ofNat, ← Nat.toDigits_append_toDigits (by decide) hn hlt, Nat.toDigits_of_lt_base hlt,
        Text.ofChars, List.map_append, List.map_singleton, digitChar_of_isDigit hdigit]
      rfl
    rw [valueFrom_cons, ih (fun d hd => h d (List.mem_cons_of_mem c hd)) (by omega), hnext,
      List.append_assoc, List.singleton_append]

theorem ofNat_value_of_ne_zero {c : CodePoint} {rest : Text} (h : Text.isDigits (c :: rest))
    (hc : c ≠ '0') : ofNat (value (c :: rest)) = c :: rest := by
  have hdigit := Text.isDigit_of_mem h List.mem_cons_self
  have hbound := Text.toNat_of_isDigit hdigit
  have hzero : '0'.toNat = 48 := rfl
  have hne : c.toNat ≠ 48 := fun he => hc (CodePoint.toNat_inj.mp he)
  have hlead : ofNat (c.toNat - '0'.toNat) = [c] := by
    rw [ofNat, Nat.toDigits_of_lt_base (by omega), Text.ofChars, List.map_singleton,
      digitChar_of_isDigit hdigit]
  have hv : value (c :: rest) = valueFrom (c.toNat - '0'.toNat) rest := by
    rw [value, valueFrom_cons, Nat.mul_zero, Nat.zero_add]
  have hrest : ∀ d ∈ rest, Text.isDigit d := fun d hd =>
    Text.isDigit_of_mem h (List.mem_cons_of_mem c hd)
  rw [hv, ofNat_valueFrom hrest (by omega), hlead, List.singleton_append]

/-- A row of digits is the number that it stands for, with zeros in front. -/
theorem exists_zeros {digits : Text} (h : Text.isDigits digits) :
    ∃ zeros, digits = List.replicate zeros (.char '0') ++ ofNat (value digits) := by
  induction digits with
  | nil => simp [Text.isDigits] at h
  | cons c rest ih =>
    by_cases hc : c = '0'
    · subst hc
      cases rest with
      | nil => exact ⟨0, rfl⟩ -- the only zero is the number itself
      | cons d rest =>
        have hdigits : Text.isDigits (d :: rest) := by
          simp only [Text.isDigits, List.all_cons, List.isEmpty_cons, Bool.and_eq_true] at h ⊢
          exact ⟨rfl, h.2.2⟩
        obtain ⟨zeros, hzeros⟩ := ih hdigits
        have hv : value ('0' :: d :: rest) = value (d :: rest) := value_zeros_append 1 (d :: rest)
        refine ⟨zeros + 1, ?_⟩
        rw [hv, List.replicate_succ, List.cons_append, ← hzeros]
    · refine ⟨0, ?_⟩
      rw [ofNat_value_of_ne_zero h hc]
      rfl

end NodeSettings.Decimal
