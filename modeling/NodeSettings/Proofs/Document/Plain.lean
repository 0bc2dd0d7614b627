import NodeSettings.Proofs.Document.Entries
import NodeSettings.Proofs.Text.Cut

/-!
# Plain lines

A line with a key, an equals sign and a plain value binds the key to that value and to nothing else:
a plain value stands on one line, begins with no quote, has no blank characters at its ends and no
comment behind it.
-/

namespace NodeSettings.Document

structure PlainKey (key : Text) : Prop where
  ne_nil : key ≠ []
  chars : ∀ c ∈ key, isKeyChar c
  head : key.head? ≠ some (.char '\'')

structure PlainValue (value : Text) : Prop where
  lineEnds : ∀ c ∈ value, Text.isLineEnd c = false
  single : value.head? ≠ some (.char '\'')
  double : value.head? ≠ some (.char '"')
  trimmedStart : value.head?.any Text.isBlank = false
  trimmedEnd : Text.trimEnd value = value
  uncommented : beforeComment false value = value

/-! ### Keys -/

theorem not_isBlank_of_isKeyChar {c : CodePoint} (h : isKeyChar c) : Text.isBlank c = false := by
  simp only [isKeyChar, Bool.and_eq_true, Bool.not_eq_true'] at h
  exact h.2

theorem PlainKey.eq_cons {key : Text} (h : PlainKey key) :
    ∃ c rest, key = c :: rest ∧ isKeyChar c ∧ c ≠ '\'' := by
  obtain ⟨c, rest, rfl⟩ := List.exists_cons_of_ne_nil h.ne_nil
  refine ⟨c, rest, rfl, h.chars c List.mem_cons_self, ?_⟩
  rintro rfl
  exact h.head rfl

/-- What may stand after a plain key: a character that ends it, and no gap after the word that marks
an export. -/
structure EndsKey (key after : Text) : Prop where
  stops : after.head?.any isKeyChar = false
  unmarked : key = "export" → after.head?.any Text.isGap = false

theorem endsKey_sign (key s : Text) : EndsKey key ('=' :: s) where
  stops := by
    rw [List.head?_cons]
    decide
  unmarked := by
    intro _
    rw [List.head?_cons]
    decide

theorem skipExport_plain {key after : Text} (h : PlainKey key) (ha : EndsKey key after) :
    skipExport (key ++ after) = key ++ after := by
  unfold skipExport
  split
  · rename_i rest hm
    have he := Text.dropMark?_eq_some_iff.mp hm
    have hgap : rest.head?.any Text.isGap = false := by
      rcases List.append_eq_append_iff.mp he with ⟨more, hw, hs⟩ | ⟨more, hk, hr⟩
      · cases more with
        | nil =>
          rw [List.append_nil] at hw
          rw [List.nil_append] at hs
          rw [← hs]
          exact ha.unmarked hw.symm
        | cons c more =>
          -- a key that is a proper part of the word is followed by the rest of the word
          have hstops := ha.stops
          rw [hs, List.cons_append, List.head?_cons, Option.any_some] at hstops
          have hword : ("export" : Text).all isKeyChar = true := by decide
          have hc : isKeyChar c = true := by
            apply List.all_eq_true.mp hword
            rw [hw]
            simp
          rw [hc] at hstops
          cases hstops
      · cases more with
        | nil =>
          rw [List.append_nil] at hk
          rw [hr, List.nil_append]
          exact ha.unmarked hk
        | cons c more =>
          have hc := not_isBlank_of_isKeyChar (h.chars c (by simp [hk]))
          simp [hr, Text.isGap, hc]
    rw [hgap, if_neg Bool.false_ne_true]
  · rfl

theorem readKey?_plain {key after : Text} (h : PlainKey key)
    (ha : after.head?.any isKeyChar = false) :
    readKey? (key ++ after) = some (some key, after) := by
  have hcut : after.takeWhile isKeyChar = [] ∧ after.dropWhile isKeyChar = after := by
    cases after with
    | nil => exact ⟨rfl, rfl⟩
    | cons c rest =>
      rw [List.head?_cons, Option.any_some] at ha
      simp [ha]
  have ht : (key ++ after).takeWhile isKeyChar = key := by
    rw [List.takeWhile_append_of_pos h.chars, hcut.1, List.append_nil]
  have hd : (key ++ after).dropWhile isKeyChar = after := by
    rw [List.dropWhile_append_of_pos h.chars, hcut.2]
  have hn : key.isEmpty = false := by simpa using h.ne_nil
  obtain ⟨c, rest, hk, hc, hq⟩ := h.eq_cons
  have hcons : key ++ after = c :: (rest ++ after) := by rw [hk, List.cons_append]
  unfold readKey?
  split
  · rename_i heq
    rw [hcons] at heq
    cases heq
    simp [isKeyChar] at hc
  · rename_i heq
    rw [hcons] at heq
    cases heq
    exact absurd rfl hq
  · simp only [ht, hd, hn, Bool.false_eq_true, if_false]

/-! ### Values -/

/-- A text on one line is the rest of it, up to a line end or the end of all. -/
theorem restOfLine_append {s after : Text} (h : ∀ c ∈ s, Text.isLineEnd c = false)
    (ha : after.head?.all Text.isLineEnd) : restOfLine (s ++ after) = s := by
  have hall : ∀ c ∈ s, (!Text.isLineEnd c) = true := by
    intro c hc
    simp [h c hc]
  rw [restOfLine, List.takeWhile_append_of_pos hall]
  cases after with
  | nil => simp
  | cons c more =>
    have hc : Text.isLineEnd c = true := by simpa using ha
    simp [hc]

theorem afterLine_append {s after : Text} (h : ∀ c ∈ s, Text.isLineEnd c = false)
    (ha : after.head?.all Text.isLineEnd) : afterLine (s ++ after) = after := by
  have hall : ∀ c ∈ s, (!Text.isLineEnd c) = true := by
    intro c hc
    simp [h c hc]
  rw [afterLine, List.dropWhile_append_of_pos hall]
  cases after with
  | nil => rfl
  | cons c more =>
    have hc : Text.isLineEnd c = true := by simpa using ha
    simp [hc]

theorem head?_append_plain {value after : Text} {c : CodePoint} (hv : value.head? ≠ some c)
    (hc : Text.isLineEnd c = false) (ha : after.head?.all Text.isLineEnd) :
    (value ++ after).head? ≠ some c := by
  cases value with
  | cons d rest => simpa using hv
  | nil =>
    intro h
    simp only [List.nil_append] at h
    rw [h, Option.all_some, hc] at ha
    cases ha

theorem readValue?_unquoted {s after : Text} (hs : s.head? ≠ some (.char '\''))
    (hd : s.head? ≠ some (.char '"')) (h : ∀ c ∈ s, Text.isLineEnd c = false)
    (ha : after.head?.all Text.isLineEnd) :
    readValue? (s ++ after) = some (Text.trimEnd (beforeComment false s), after) := by
  have hsingle := head?_append_plain hs (by decide) ha
  have hdouble := head?_append_plain hd (by decide) ha
  unfold readValue?
  split
  · rename_i rest heq
    rw [heq] at hsingle
    exact absurd rfl hsingle
  · rename_i rest heq
    rw [heq] at hdouble
    exact absurd rfl hdouble
  · rw [unquoted, restOfLine_append h ha, afterLine_append h ha]

theorem readValue?_plain {value after : Text} (h : PlainValue value)
    (ha : after.head?.all Text.isLineEnd) :
    readValue? (value ++ after) = some (value, after) := by
  rw [readValue?_unquoted h.single h.double h.lineEnds ha, h.uncommented, h.trimmedEnd]

theorem dropWhile_isGap_plain {value after : Text} (h : PlainValue value)
    (ha : after.head?.all Text.isLineEnd) :
    (value ++ after).dropWhile Text.isGap = value ++ after ∧
      (value ++ after).head?.any Text.isGap = false := by
  cases value with
  | cons c rest =>
    have hc : Text.isGap c = false := by
      have hb : Text.isBlank c = false := by simpa using h.trimmedStart
      simp [Text.isGap, hb]
    simp [hc]
  | nil =>
    cases after with
    | nil => simp
    | cons c more =>
      have hc : Text.isGap c = false := by
        have hl : Text.isLineEnd c = true := by simpa using ha
        simp [Text.isGap, hl]
      simp [hc]

theorem readOptionalValue_plain {value after : Text} (h : PlainValue value)
    (ha : after.head?.all Text.isLineEnd) :
    readOptionalValue (.char '=' :: (value ++ after)) = .ok (some value, after) := by
  obtain ⟨hdrop, hgap⟩ := dropWhile_isGap_plain h ha
  have hr : readAssigned (value ++ after) = .ok (value, after) := by
    simp only [readAssigned, hdrop, hgap, Bool.false_and, Bool.false_eq_true, if_false,
      readValue?_plain h ha]
  simp only [readOptionalValue, hr]

/-! ### Values without blank characters -/

theorem beforeComment_of_forall {s : Text} (h : ∀ c ∈ s, Text.isBlank c = false) :
    beforeComment false s = s := by
  induction s with
  | nil => rfl
  | cons c rest ih =>
    have hc := h c List.mem_cons_self
    have hrest := ih fun d hd => h d (List.mem_cons_of_mem c hd)
    simp only [beforeComment, Bool.and_false, Bool.false_eq_true, if_false, hc, hrest]

theorem plainValue_of_forall {s : Text} (h : ∀ c ∈ s, Text.isBlank c = false)
    (hs : s.head? ≠ some (.char '\'')) (hd : s.head? ≠ some (.char '"')) : PlainValue s where
  lineEnds c hc := Text.isLineEnd_of_not_isBlank (h c hc)
  single := hs
  double := hd
  trimmedStart := by
    cases s with
    | nil => rfl
    | cons c rest => exact h c List.mem_cons_self
  trimmedEnd := Text.trimEnd_of_forall h
  uncommented := beforeComment_of_forall h

theorem plainValue_of_isDigits {s : Text} (h : Text.isDigits s) : PlainValue s := by
  have hquote : ∀ c, Text.isDigit c = false → s.head? ≠ some c := fun c hc he =>
    Text.not_mem_of_isDigits h hc (List.mem_of_mem_head? he)
  exact plainValue_of_forall (Text.isBlank_of_isDigits h) (hquote _ (by decide))
    (hquote _ (by decide))

/-! ### Lines -/

variable {key s value after rest : Text}

/-- A plain key is bound to whatever stands after the equals sign, with or without a gap before. -/
theorem readBinding_assigned {gap : Text} (hk : PlainKey key) (hg : ∀ c ∈ gap, Text.isGap c)
    (hx : key = "export" → gap = []) (hv : readOptionalValue ('=' :: s) = .ok (some value, after))
    (hl : readLineEnd? after = some rest) :
    readBinding (key ++ (gap ++ .char '=' :: s)) = .ok (some (key, some value), rest) := by
  have hsign : Text.isGap '=' = false := by decide
  have hends : EndsKey key (gap ++ .char '=' :: s) := by
    cases gap with
    | nil => exact endsKey_sign key s
    | cons c more =>
      have hb := Text.isBlank_of_isGap (hg c List.mem_cons_self)
      refine ⟨by simp [isKeyChar, hb], fun he => ?_⟩
      cases hx he
  have hdrop : (gap ++ .char '=' :: s).dropWhile Text.isGap = .char '=' :: s := by
    rw [List.dropWhile_append_of_pos hg, List.dropWhile_cons, hsign, if_neg Bool.false_ne_true]
  simp only [readBinding, skipExport_plain hk hends, readKey?_plain hk hends.stops, hdrop, hv, hl,
    Option.map_some]

/-- An entry that begins with a plain key is the binding that is read there. -/
theorem readEntry_key (hk : PlainKey key) :
    readEntry (key ++ s)
      = match readBinding (key ++ s) with
        | .ok (some pair, rest) => (.binding pair, rest)
        | .ok (none, rest) => (.nothing, rest)
        | .error stuck => (.malformed, skipLine stuck) := by
  obtain ⟨c, more, rfl, hc, -⟩ := hk.eq_cons
  have hdrop : (c :: more ++ s).dropWhile Text.isBlank = c :: (more ++ s) := by
    rw [List.cons_append, List.dropWhile_cons, not_isBlank_of_isKeyChar hc,
      if_neg Bool.false_ne_true]
  simp only [readEntry, hdrop]
  rfl

theorem readEntry_assigned (hk : PlainKey key)
    (hv : readOptionalValue ('=' :: s) = .ok (some value, after))
    (hl : readLineEnd? after = some rest) :
    readEntry (key ++ .char '=' :: s) = (.binding (key, some value), rest) := by
  have hb : readBinding (key ++ ([] ++ .char '=' :: s)) = .ok (some (key, some value), rest) :=
    readBinding_assigned hk (by simp) (fun _ => rfl) hv hl
  rw [List.nil_append] at hb
  rw [readEntry_key hk, hb]

/-- A document of one entry, a binding of a plain key. -/
theorem bindings_assigned (hk : PlainKey key) (hmark : key.head? ≠ some (.char '\uFEFF'))
    (hentry : readEntry (key ++ .char '=' :: s) = (.binding (key, some value), [])) :
    bindings (key ++ .char '=' :: s) = .ok [(key, value)] := by
  have hne : key ++ .char '=' :: s ≠ [] := List.append_ne_nil_of_left_ne_nil hk.ne_nil _
  have hm : withoutMark (key ++ .char '=' :: s) = key ++ .char '=' :: s := by
    apply withoutMark_of_head?
    obtain ⟨c, more, rfl, -, -⟩ := hk.eq_cons
    exact hmark
  have hsays := significant_of_ne_nil hne
  rw [hentry, significant_nil] at hsays
  rw [bindings_eq_ok_iff, hm, hsays]
  exact ⟨by simp, rfl⟩

/-- A document of one plain line binds its key to its value. -/
theorem bindings_plain (hk : PlainKey key) (hmark : key.head? ≠ some (.char '\uFEFF'))
    (hv : PlainValue value) : bindings (key ++ .char '=' :: value) = .ok [(key, value)] := by
  have hread : readOptionalValue (.char '=' :: (value ++ [])) = .ok (some value, []) :=
    readOptionalValue_plain hv rfl
  rw [List.append_nil] at hread
  exact bindings_assigned hk hmark (readEntry_assigned hk hread rfl)

end NodeSettings.Document
