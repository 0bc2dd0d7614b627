import NodeSettings.Text.Utf8

/-!
# Reading encoded text

The octets of a text are read back as that text: of every character, whatever its size, the first
octet tells how many follow and between which bounds, and the octets that follow are within them.
-/

namespace NodeSettings.Utf8

/-! ### The first octet of a character -/

theorem ofFirst?_one {o : UInt8} (h : o.toNat < 0x80) :
    Pending.ofFirst? o = some ⟨o.toNat, 0, 0x80, 0xBF⟩ := by
  simp only [Pending.ofFirst?]
  rw [if_pos h]

theorem ofFirst?_two {o : UInt8} (h : 0xC2 ≤ o.toNat) (h' : o.toNat < 0xE0) :
    Pending.ofFirst? o = some ⟨o.toNat - 0xC0, 1, 0x80, 0xBF⟩ := by
  simp only [Pending.ofFirst?]
  rw [if_neg (by omega), if_neg (by omega), if_pos h']

theorem ofFirst?_three {o : UInt8} (h : 0xE0 ≤ o.toNat) (h' : o.toNat < 0xF0) :
    Pending.ofFirst? o = some ⟨o.toNat - 0xE0, 2, if o.toNat = 0xE0 then 0xA0 else 0x80,
      if o.toNat = 0xED then 0x9F else 0xBF⟩ := by
  simp only [Pending.ofFirst?]
  rw [if_neg (by omega), if_neg (by omega), if_neg (by omega)]
  by_cases h0 : o.toNat = 0xE0
  · simp [h0]
  · rw [if_neg h0, if_neg h0]
    by_cases hd : o.toNat = 0xED
    · simp [hd]
    · rw [if_neg hd, if_neg hd, if_pos h']

theorem ofFirst?_four {o : UInt8} (h : 0xF0 ≤ o.toNat) (h' : o.toNat < 0xF5) :
    Pending.ofFirst? o = some ⟨o.toNat - 0xF0, 3, if o.toNat = 0xF0 then 0x90 else 0x80,
      if o.toNat = 0xF4 then 0x8F else 0xBF⟩ := by
  simp only [Pending.ofFirst?]
  rw [if_neg (by omega), if_neg (by omega), if_neg (by omega), if_neg (by omega),
    if_neg (by omega), if_neg (by omega)]
  by_cases h0 : o.toNat = 0xF0
  · simp [h0]
  · rw [if_neg h0, if_neg h0]
    by_cases h4 : o.toNat = 0xF4
    · simp [h4]
    · rw [if_neg h4, if_neg h4, if_pos (by omega)]

theorem push?_of_within {pending : Pending} {o : UInt8} (h : pending.low ≤ o.toNat)
    (h' : o.toNat ≤ pending.high) :
    pending.push? o = some ⟨pending.bits * 64 + (o.toNat - 0x80), pending.owed - 1, 0x80, 0xBF⟩ :=
  if_pos ⟨h, h'⟩

/-! ### One character -/

theorem decodeFrom_one {o : UInt8} (h : o.toNat < 0x80) (offset : Nat) (rest : List UInt8) :
    decodeFrom .between offset (o :: rest)
      = (decodeFrom .between (offset + 1) rest).map (CodePoint.ofNat o.toNat :: ·) := by
  simp only [decodeFrom, ofFirst?_one h, if_true]

variable {o o₁ o₂ o₃ : UInt8} {bits low high : Nat}

theorem decodeFrom_two (hf : Pending.ofFirst? o = some ⟨bits, 1, low, high⟩)
    (hl₁ : low ≤ o₁.toNat) (hh₁ : o₁.toNat ≤ high) (offset : Nat) (rest : List UInt8) :
    decodeFrom .between offset (o :: o₁ :: rest)
      = (decodeFrom .between (offset + 2) rest).map
          (CodePoint.ofNat (bits * 64 + (o₁.toNat - 0x80)) :: ·) := by
  have hp₁ : (⟨bits, 1, low, high⟩ : Pending).push? o₁ = _ := push?_of_within hl₁ hh₁
  simp [decodeFrom, hf, hp₁]

theorem decodeFrom_three (hf : Pending.ofFirst? o = some ⟨bits, 2, low, high⟩)
    (hl₁ : low ≤ o₁.toNat) (hh₁ : o₁.toNat ≤ high) (hl₂ : 0x80 ≤ o₂.toNat)
    (hh₂ : o₂.toNat ≤ 0xBF) (offset : Nat) (rest : List UInt8) :
    decodeFrom .between offset (o :: o₁ :: o₂ :: rest)
      = (decodeFrom .between (offset + 3) rest).map
          (CodePoint.ofNat ((bits * 64 + (o₁.toNat - 0x80)) * 64 + (o₂.toNat - 0x80)) :: ·) := by
  have hp₁ : (⟨bits, 2, low, high⟩ : Pending).push? o₁ = _ := push?_of_within hl₁ hh₁
  have hp₂ : (⟨bits * 64 + (o₁.toNat - 0x80), 1, 0x80, 0xBF⟩ : Pending).push? o₂ = _ :=
    push?_of_within hl₂ hh₂
  simp [decodeFrom, hf, hp₁, hp₂]

theorem decodeFrom_four (hf : Pending.ofFirst? o = some ⟨bits, 3, low, high⟩)
    (hl₁ : low ≤ o₁.toNat) (hh₁ : o₁.toNat ≤ high) (hl₂ : 0x80 ≤ o₂.toNat)
    (hh₂ : o₂.toNat ≤ 0xBF) (hl₃ : 0x80 ≤ o₃.toNat) (hh₃ : o₃.toNat ≤ 0xBF) (offset : Nat)
    (rest : List UInt8) :
    decodeFrom .between offset (o :: o₁ :: o₂ :: o₃ :: rest)
      = (decodeFrom .between (offset + 4) rest).map
          (CodePoint.ofNat (((bits * 64 + (o₁.toNat - 0x80)) * 64 + (o₂.toNat - 0x80)) * 64
            + (o₃.toNat - 0x80)) :: ·) := by
  have hp₁ : (⟨bits, 3, low, high⟩ : Pending).push? o₁ = _ := push?_of_within hl₁ hh₁
  have hp₂ : (⟨bits * 64 + (o₁.toNat - 0x80), 2, 0x80, 0xBF⟩ : Pending).push? o₂ = _ :=
    push?_of_within hl₂ hh₂
  have hp₃ : (⟨(bits * 64 + (o₁.toNat - 0x80)) * 64 + (o₂.toNat - 0x80), 1, 0x80, 0xBF⟩
      : Pending).push? o₃ = _ := push?_of_within hl₃ hh₃
  simp [decodeFrom, hf, hp₁, hp₂, hp₃]

theorem toNat_ofNat_of_lt {n : Nat} (h : n < 256) : (UInt8.ofNat n).toNat = n := by
  rw [UInt8.toNat_ofNat']
  omega

/-- The octets of a character are read as that character, wherever they stand. -/
theorem decodeFrom_utf8EncodeChar (c : Char) (offset : Nat) (rest : List UInt8) :
    decodeFrom .between offset (String.utf8EncodeChar c ++ rest)
      = (decodeFrom .between (offset + (String.utf8EncodeChar c).length) rest).map
          (.char c :: ·) := by
  have hvalid : c.toNat < 0xD800 ∨ 0xDFFF < c.toNat ∧ c.toNat < 0x110000 := c.valid
  have hchar : CodePoint.ofNat c.toNat = .char c := CodePoint.ofNat_char c
  have hval : c.val.toNat = c.toNat := rfl
  generalize c.toNat = v at hvalid hchar hval
  simp only [String.utf8EncodeChar, hval]
  -- the number of octets, as the encoding tells it from the code point
  by_cases h1 : v ≤ 127
  · have hb := toNat_ofNat_of_lt (show v < 256 by omega)
    rw [if_pos h1, List.cons_append, List.nil_append, decodeFrom_one (by omega), hb, hchar]
    rfl
  by_cases h2 : v ≤ 2047
  · have hb := toNat_ofNat_of_lt (show v / 64 % 32 + 192 < 256 by omega)
    have hb₁ := toNat_ofNat_of_lt (show v % 64 + 128 < 256 by omega)
    rw [if_neg h1, if_pos h2]
    simp only [List.cons_append, List.nil_append]
    rw [decodeFrom_two (ofFirst?_two (by omega) (by omega)) (by omega) (by omega), hb, hb₁]
    have hbits : (v / 64 % 32 + 192 - 0xC0) * 64 + (v % 64 + 128 - 0x80) = v := by omega
    rw [hbits, hchar]
    rfl
  by_cases h3 : v ≤ 65535
  · have hb := toNat_ofNat_of_lt (show v / 4096 % 16 + 224 < 256 by omega)
    have hb₁ := toNat_ofNat_of_lt (show v / 64 % 64 + 128 < 256 by omega)
    have hb₂ := toNat_ofNat_of_lt (show v % 64 + 128 < 256 by omega)
    rw [if_neg h1, if_neg h2, if_pos h3]
    simp only [List.cons_append, List.nil_append]
    rw [decodeFrom_three (ofFirst?_three (by omega) (by omega)) (by split <;> omega)
      (by split <;> omega) (by omega) (by omega), hb, hb₁, hb₂]
    have hbits : ((v / 4096 % 16 + 224 - 0xE0) * 64 + (v / 64 % 64 + 128 - 0x80)) * 64
        + (v % 64 + 128 - 0x80) = v := by omega
    rw [hbits, hchar]
    rfl
  · have hb := toNat_ofNat_of_lt (show v / 262144 % 8 + 240 < 256 by omega)
    have hb₁ := toNat_ofNat_of_lt (show v / 4096 % 64 + 128 < 256 by omega)
    have hb₂ := toNat_ofNat_of_lt (show v / 64 % 64 + 128 < 256 by omega)
    have hb₃ := toNat_ofNat_of_lt (show v % 64 + 128 < 256 by omega)
    rw [if_neg h1, if_neg h2, if_neg h3]
    simp only [List.cons_append, List.nil_append]
    rw [decodeFrom_four (ofFirst?_four (by omega) (by omega)) (by split <;> omega)
      (by split <;> omega) (by omega) (by omega) (by omega) (by omega), hb, hb₁, hb₂, hb₃]
    have hbits : (((v / 262144 % 8 + 240 - 0xF0) * 64 + (v / 4096 % 64 + 128 - 0x80)) * 64
        + (v / 64 % 64 + 128 - 0x80)) * 64 + (v % 64 + 128 - 0x80) = v := by omega
    rw [hbits, hchar]
    rfl

/-! ### Texts -/

theorem decodeFrom_ofChars (chars : List Char) (offset : Nat) :
    decodeFrom .between offset (ofChars chars) = .ok (Text.ofChars chars) := by
  induction chars generalizing offset with
  | nil => rfl
  | cons c rest ih =>
    have hc : ofChars (c :: rest) = String.utf8EncodeChar c ++ ofChars rest := List.flatMap_cons
    rw [hc, decodeFrom_utf8EncodeChar, ih]
    rfl

theorem decode_of_encode {s : Text} {octets : List UInt8} (h : encode s = some octets) :
    decode octets = .ok s := by
  obtain ⟨chars, hchars, rfl⟩ := Option.map_eq_some_iff.mp h
  rw [Text.chars?_eq_some_iff.mp hchars]
  exact decodeFrom_ofChars chars 0

end NodeSettings.Utf8
