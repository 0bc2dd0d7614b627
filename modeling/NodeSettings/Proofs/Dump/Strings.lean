import NodeSettings.Proofs.Dump.Json
import Mathlib.Algebra.Group.Nat.Defs
import Mathlib.Data.List.Basic

/-!
# Strings in a dump

A string of a dump is read as the text that it shows, whatever code points the text is made of and
whatever stands behind the closing quote, as long as no high half of a pair stands right before a
low half. A code point that is escaped by its code units is one or two numbers of four hexadecimal
digits, and a split pair has the numbers of the one character that the pair stands for.
-/

namespace NodeSettings.Json

/-! ### Four hexadecimal digits -/

theorem hexValue?_digitChar {n : Nat} (h : n < 16) : hexValue? n.digitChar = some n := by
  have hall : ∀ n < 16, hexValue? (Nat.digitChar n) = some n := by decide
  exact hall n h

theorem hexNumber?_append (digits more : Text) :
    hexNumber? (digits ++ more)
      = (hexNumber? digits).bind fun n =>
          more.foldlM (fun n d => (hexValue? d).map (16 * n + ·)) n := by
  rw [hexNumber?, List.foldlM_append]
  rfl

theorem hexNumber?_toDigits (n : Nat) :
    hexNumber? (Text.ofChars (Nat.toDigits 16 n)) = some n := by
  induction n using Nat.strongRecOn with
  | ind n ih =>
    by_cases hn : n < 16
    · rw [Nat.toDigits_of_lt_base hn]
      simp [hexNumber?, Text.ofChars, hexValue?_digitChar hn]
    · have hlast : hexValue? (n % 16).digitChar = some (n % 16) :=
        hexValue?_digitChar (Nat.mod_lt n (by decide))
      rw [Nat.toDigits_of_base_le (by decide) (Nat.le_of_not_lt hn), Text.ofChars_append,
        hexNumber?_append, ih (n / 16) (by omega)]
      simp [Text.ofChars, hlast]
      omega

theorem hexNumber?_zeros (k : Nat) (digits : Text) :
    hexNumber? (List.replicate k (.char '0') ++ digits) = hexNumber? digits := by
  induction k with
  | zero => rfl
  | succ k ih =>
    rw [List.replicate_succ, List.cons_append, ← ih]
    rfl

theorem hexNumber?_hexDigits (width n : Nat) : hexNumber? (Text.hexDigits width n) = some n := by
  rw [Text.hexDigits, hexNumber?_zeros, hexNumber?_toDigits]

theorem length_hexDigits {width n : Nat} (hw : 0 < width) (h : n < 16 ^ width) :
    (Text.hexDigits width n).length = width := by
  have hlen := (Nat.length_toDigits_le_iff (by decide) hw).mpr h
  simp only [Text.hexDigits, Text.ofChars, List.length_append, List.length_replicate,
    List.length_map]
  omega

/-! ### The pieces of an escape -/

/-- Whether a code point is written without the numbers of its code units. -/
def isShort (c : CodePoint) : Bool :=
  c = '\n' || c = '\r' || c = '\t' || c = '\x08' || c = '\x0C' || Text.isPlain c

/-- The pieces that a dump shows a code point by. -/
def piecesOf (c : CodePoint) : List Piece :=
  if isShort c then [.plain c] else (Dump.codeUnits c).map .unit

theorem readPieces?_backslash {s rest : Text} {piece : Piece}
    (h : readEscape? s = some (piece, rest)) :
    readPieces? (.char '\\' :: s) = (readPieces? rest).map (Prod.map (piece :: ·) id) := by
  rw [readPieces?, if_neg (by decide), if_pos rfl]
  split
  · rename_i hs
    rw [h] at hs
    cases hs
    rfl
  · rename_i hs
    rw [h] at hs
    cases hs

theorem readPieces?_unit {n : Nat} (h : n < 0x10000) (rest : Text) :
    readPieces? (("\\u" : Text) ++ Text.hexDigits 4 n ++ rest)
      = (readPieces? rest).map (Prod.map (.unit n :: ·) id) := by
  have hlen : (Text.hexDigits 4 n).length = 4 := length_hexDigits (by decide) h
  obtain ⟨d₁, d₂, d₃, d₄, hd⟩ := List.length_eq_four.mp hlen
  have hn : hexNumber? [d₁, d₂, d₃, d₄] = some n := by rw [← hd, hexNumber?_hexDigits]
  have hescape : readEscape? ('u' :: d₁ :: d₂ :: d₃ :: d₄ :: rest) = some (.unit n, rest) := by
    rw [readEscape?, if_pos rfl]
    simp only [hn, Option.map_some]
  rw [hd]
  exact readPieces?_backslash hescape

theorem readPieces?_units {units : List Nat} (h : ∀ n ∈ units, n < 0x10000) (rest : Text) :
    readPieces? ((units.flatMap fun n => ("\\u" : Text) ++ Text.hexDigits 4 n) ++ rest)
      = (readPieces? rest).map (Prod.map (units.map .unit ++ ·) id) := by
  induction units with
  | nil => exact Option.map_id'.symm
  | cons n units ih =>
    rw [List.flatMap_cons, List.append_assoc, readPieces?_unit (h n List.mem_cons_self),
      ih fun m hm => h m (List.mem_cons_of_mem n hm), Option.map_map]
    rfl

theorem readPieces?_named {e c : CodePoint} (he : e ≠ 'u') (h : named? e = some c) (rest : Text) :
    readPieces? ('\\' :: e :: rest) = (readPieces? rest).map (Prod.map (.plain c :: ·) id) := by
  apply readPieces?_backslash
  simp only [readEscape?.eq_def, if_neg he, h, Option.map_some]

theorem readPieces?_plain {c : CodePoint} (hquote : c ≠ '"') (hslash : c ≠ '\\')
    (h : 0x20 ≤ c.toNat) (rest : Text) :
    readPieces? (c :: rest) = (readPieces? rest).map (Prod.map (.plain c :: ·) id) := by
  rw [readPieces?, if_neg hquote, if_neg hslash, if_neg (by omega)]

theorem codeUnits_lt (c : CodePoint) : ∀ n ∈ Dump.codeUnits c, n < 0x10000 := by
  have hlt := c.toNat_lt
  intro n hn
  unfold Dump.codeUnits at hn
  split at hn
  · rw [List.mem_singleton] at hn
    omega
  · simp only [List.mem_cons, List.not_mem_nil, or_false] at hn
    omega

/-- The escape of a code point is read as its pieces. -/
theorem readPieces?_escape (c : CodePoint) (rest : Text) :
    readPieces? (Dump.escape c ++ rest)
      = (readPieces? rest).map (Prod.map (piecesOf c ++ ·) id) := by
  unfold Dump.escape
  split_ifs with hself hn hr ht hb hf hplain
  · simp only [Bool.or_eq_true, decide_eq_true_eq] at hself
    rcases hself with rfl | rfl
    · exact readPieces?_named (e := '"') (by decide) (by decide) rest
    · exact readPieces?_named (e := '\\') (by decide) (by decide) rest
  · subst hn
    exact readPieces?_named (e := 'n') (by decide) (by decide) rest
  · subst hr
    exact readPieces?_named (e := 'r') (by decide) (by decide) rest
  · subst ht
    exact readPieces?_named (e := 't') (by decide) (by decide) rest
  · subst hb
    exact readPieces?_named (e := 'b') (by decide) (by decide) rest
  · subst hf
    exact readPieces?_named (e := 'f') (by decide) (by decide) rest
  · have hpieces : piecesOf c = [.plain c] := if_pos (by simp [isShort, hplain])
    simp only [Bool.or_eq_true, decide_eq_true_eq, not_or] at hself
    simp only [Text.isPlain, Bool.and_eq_true, decide_eq_true_eq] at hplain
    rw [hpieces]
    exact readPieces?_plain hself.1 hself.2 hplain.1 rest
  · have hpieces : piecesOf c = (Dump.codeUnits c).map .unit :=
      if_neg (by simp [isShort, hn, hr, ht, hb, hf, hplain])
    rw [hpieces]
    exact readPieces?_units (codeUnits_lt c) rest

/-! ### The text of the pieces -/

theorem join_unit {n : Nat} {rest : List Piece}
    (h : ∀ low behind, rest = .unit low :: behind → ¬ ArePair n low) :
    join (.unit n :: rest) = CodePoint.ofNat n :: join rest := by
  cases rest with
  | nil => rfl
  | cons piece behind =>
    cases piece with
    | plain c => rfl
    | unit low => rw [join, if_neg (h low behind rfl)]

/-- Where a number comes first that is the second half of a pair, the code point is that half. -/
theorem isLow_of_piecesOf {c : CodePoint} {low : Nat} {rest : List Piece}
    (h : piecesOf c = .unit low :: rest) (hl : 0xDC00 ≤ low ∧ low < 0xE000) : c.isLow := by
  have hlt := c.toNat_lt
  unfold piecesOf at h
  split at h
  · cases h
  · unfold Dump.codeUnits at h
    split at h
    · rw [List.map_singleton, List.cons.injEq, Piece.unit.injEq] at h
      exact CodePoint.isLow_iff.mpr (h.1 ▸ hl)
    · rw [List.map_cons, List.cons.injEq, Piece.unit.injEq] at h
      omega

theorem join_piecesOf_append {c : CodePoint} {rest : List Piece}
    (h : c.isHigh → ∀ low behind, rest = .unit low :: behind → ¬ (0xDC00 ≤ low ∧ low < 0xE000)) :
    join (piecesOf c ++ rest) = c :: join rest := by
  unfold piecesOf
  split
  · rfl
  · have hlt := c.toNat_lt
    have hchar : CodePoint.ofNat c.toNat = c := CodePoint.ofNat_toNat c
    unfold Dump.codeUnits
    split
    · rw [List.map_singleton, List.singleton_append, join_unit, hchar]
      intro low behind hrest hpair
      exact h (CodePoint.isHigh_iff.mpr hpair.1) low behind hrest hpair.2
    · generalize c.toNat = v at *
      have hpair : ArePair (0xD800 + (v - 0x10000) / 0x400) (0xDC00 + (v - 0x10000) % 0x400) := by
        unfold ArePair
        omega
      have hjoined : 0x10000 + (0xD800 + (v - 0x10000) / 0x400 - 0xD800) * 0x400
          + (0xDC00 + (v - 0x10000) % 0x400 - 0xDC00) = v := by omega
      rw [List.map_cons, List.map_singleton, List.cons_append, List.singleton_append, join,
        if_pos hpair, hjoined, hchar]

end NodeSettings.Json

namespace NodeSettings

/-- No high half of a pair stands right before a low half. -/
abbrev Text.Unsplit (s : Text) : Prop := s.IsChain fun c d => ¬ (c.isHigh ∧ d.isLow)

theorem Text.unsplit_ofChars (chars : List Char) : (ofChars chars).Unsplit := by
  induction chars with
  | nil => exact .nil
  | cons c rest ih =>
    cases rest with
    | nil => exact .singleton _
    | cons d rest => exact .cons_cons (fun h => Bool.false_ne_true h.1) ih

namespace Json

/-- A text without a split pair is the text of its pieces. -/
theorem join_flatMap {s : Text} (h : s.Unsplit) : join (s.flatMap piecesOf) = s := by
  induction s with
  | nil => rfl
  | cons c rest ih =>
    have htail : Text.Unsplit rest := by
      cases h with
      | singleton => exact .nil
      | cons_cons _ h => exact h
    rw [List.flatMap_cons, join_piecesOf_append, ih htail]
    intro hhigh low behind hrest hlow
    -- the first piece behind comes from the next code point, which is no low half
    cases rest with
    | nil => cases hrest
    | cons d more =>
      have hfirst := List.isChain_cons_cons.mp h
      rw [List.flatMap_cons] at hrest
      cases hd : piecesOf d with
      | nil =>
        unfold piecesOf Dump.codeUnits at hd
        split at hd
        · cases hd
        · split at hd <;> cases hd
      | cons piece pieces =>
        rw [hd, List.cons_append, List.cons.injEq] at hrest
        rw [hrest.1] at hd
        exact hfirst.1 ⟨hhigh, isLow_of_piecesOf hd hlow⟩

/-! ### Strings -/

theorem readPieces?_flatMap (s rest : Text) :
    readPieces? (s.flatMap Dump.escape ++ .char '"' :: rest) = some (s.flatMap piecesOf, rest) := by
  induction s with
  | nil => rw [List.flatMap_nil, List.nil_append, readPieces?, if_pos rfl, List.flatMap_nil]
  | cons c s ih =>
    rw [List.flatMap_cons, List.append_assoc, readPieces?_escape, ih]
    rfl

/-- The string that a dump shows is read as its text, unless that has a split pair. -/
theorem readString?_string {s : Text} (h : s.Unsplit) (rest : Text) :
    readString? (s.flatMap Dump.escape ++ .char '"' :: rest) = some (s, rest) := by
  rw [readString?, readPieces?_flatMap, Option.map_some, Prod.map, join_flatMap h]
  rfl

end Json

end NodeSettings
