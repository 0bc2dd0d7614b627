import NodeSettings.Log.Sanitize

/-!
# What is left of a text on a terminal

A complete escape sequence is recognized by its characters alone, whatever stands around it, and is
taken out whole. So text with sequences anywhere in it is left as the text without them, less the
control characters of the lower range, and a second pass finds nothing more. The control characters
of the upper range are no part of any sequence and are all left: a text becomes safe exactly if it
has none of them.
-/

namespace NodeSettings.Log

/-! ### Classes of characters -/

def Within (low high : Nat) (c : CodePoint) : Prop := low ≤ c.toNat ∧ c.toNat ≤ high

instance (low high : Nat) : DecidablePred (Within low high) :=
  fun _ => inferInstanceAs (Decidable (_ ∧ _))

theorem Within.not_within {low high low' high' : Nat} {c : CodePoint} (h : Within low high c)
    (hd : high < low' ∨ high' < low) : ¬ Within low' high' c := by
  intro h'
  have hlow := h.1
  have hhigh := h.2
  have hlow' := h'.1
  have hhigh' := h'.2
  omega

/-- A control character, of the lower range or of the upper one. -/
def IsControl (c : CodePoint) : Prop := Within 0x00 0x1F c ∨ Within 0x7F 0x9F c

def IsHighControl (c : CodePoint) : Prop := Within 0x80 0x9F c

/-- A control character of the lower range, or the one that deletes, but not the tab or the feed. -/
def IsDropped (c : CodePoint) : Prop := Within 0x00 0x08 c ∨ Within 0x0B 0x1F c ∨ Within 0x7F 0x7F c

instance : DecidablePred IsControl := fun _ => inferInstanceAs (Decidable (_ ∨ _))

instance : DecidablePred IsHighControl := fun _ => inferInstanceAs (Decidable (Within _ _ _))

instance : DecidablePred IsDropped := fun _ => inferInstanceAs (Decidable (_ ∨ _ ∨ _))

theorem le_and_le_iff (low high c : CodePoint) :
    (decide (low ≤ c) && decide (c ≤ high)) = true ↔ Within low.toNat high.toNat c := by
  simp only [Bool.and_eq_true, decide_eq_true_eq, CodePoint.le_def]
  rfl

theorem isParameter_iff {c : CodePoint} : isParameter c ↔ Within 0x30 0x3F c :=
  le_and_le_iff '0' '?' c

theorem isIntermediate_iff {c : CodePoint} : isIntermediate c ↔ Within 0x20 0x2F c :=
  le_and_le_iff ' ' '/' c

theorem isFinal_iff {c : CodePoint} : isFinal c ↔ Within 0x40 0x7E c := le_and_le_iff '@' '~' c

theorem isShort_iff {c : CodePoint} : isShort c ↔ Within 0x40 0x5A c ∨ Within 0x5C 0x5F c := by
  rw [isShort, Bool.or_eq_true, le_and_le_iff, le_and_le_iff]
  rfl

theorem isRemovedControl_iff {c : CodePoint} : isRemovedControl c ↔ IsDropped c := by
  simp only [isRemovedControl, Bool.or_eq_true, Bool.and_eq_true, decide_eq_true_eq, IsDropped,
    Within]
  omega

/-! ### Complete sequences -/

/-- A complete escape sequence: a bracket with parameters, intermediates and a final character, or
one character alone. -/
inductive EscapeSequence where
  | control (parameters intermediates : Text) (final : CodePoint)
      (hp : ∀ c ∈ parameters, Within 0x30 0x3F c) (hi : ∀ c ∈ intermediates, Within 0x20 0x2F c)
      (hf : Within 0x40 0x7E final)
  | short (final : CodePoint) (hf : Within 0x40 0x5A final ∨ Within 0x5C 0x5F final)

namespace EscapeSequence

def body : EscapeSequence → Text
  | control parameters intermediates final _ _ _ =>
    .char '[' :: (parameters ++ (intermediates ++ [final]))
  | short final _ => [final]

def text (e : EscapeSequence) : Text := escapeChar :: e.body

theorem not_isHighControl_of_mem {e : EscapeSequence} {c : CodePoint} (h : c ∈ e.text) :
    ¬ IsHighControl c := by
  rcases List.mem_cons.mp h with rfl | hbody
  · decide
  cases e with
  | control parameters intermediates final hp hi hf =>
    simp only [body, List.mem_cons, List.mem_append, List.not_mem_nil, or_false] at hbody
    rcases hbody with rfl | hc | hc | rfl
    · decide
    · exact (hp c hc).not_within (.inl (by decide))
    · exact (hi c hc).not_within (.inl (by decide))
    · exact hf.not_within (.inl (by decide))
  | short final hf =>
    rw [body, List.mem_singleton] at hbody
    subst hbody
    rcases hf with hf | hf
    · exact hf.not_within (.inl (by decide))
    · exact hf.not_within (.inl (by decide))

end EscapeSequence

/-- No class holds characters of another one, so each run ends where the next begins. -/
theorem dropWhile_control {parameters intermediates : Text} {final : CodePoint}
    (hp : ∀ c ∈ parameters, Within 0x30 0x3F c) (hi : ∀ c ∈ intermediates, Within 0x20 0x2F c)
    (hf : Within 0x40 0x7E final) (s : Text) :
    ((parameters ++ (intermediates ++ final :: s)).dropWhile isParameter).dropWhile isIntermediate
      = final :: s := by
  have hstart : (intermediates ++ final :: s).dropWhile isParameter
      = intermediates ++ final :: s := by
    cases intermediates with
    | nil =>
      have hno : ¬ isParameter final := fun h =>
        hf.not_within (.inr (by decide)) (isParameter_iff.mp h)
      exact List.dropWhile_cons_of_neg hno
    | cons i rest =>
      have hno : ¬ isParameter i := fun h =>
        (hi i List.mem_cons_self).not_within (.inl (by decide)) (isParameter_iff.mp h)
      exact List.dropWhile_cons_of_neg hno
  have hend : (final :: s).dropWhile isIntermediate = final :: s := by
    have hno : ¬ isIntermediate final := fun h =>
      hf.not_within (.inr (by decide)) (isIntermediate_iff.mp h)
    exact List.dropWhile_cons_of_neg hno
  rw [List.dropWhile_append_of_pos fun c hc => isParameter_iff.mpr (hp c hc), hstart,
    List.dropWhile_append_of_pos fun c hc => isIntermediate_iff.mpr (hi c hc), hend]

theorem afterSequence?_body (e : EscapeSequence) (s : Text) :
    afterSequence? (e.body ++ s) = some s := by
  cases e with
  | control parameters intermediates final hp hi hf =>
    have hfinal : isFinal final = true := isFinal_iff.mpr hf
    have hbody : (EscapeSequence.control parameters intermediates final hp hi hf).body ++ s
        = .char '[' :: (parameters ++ (intermediates ++ final :: s)) := by
      simp only [EscapeSequence.body, List.cons_append, List.append_assoc, List.nil_append]
    rw [hbody, afterSequence?]
    simp only [dropWhile_control hp hi hf s, hfinal, if_true]
  | short final hf =>
    have hshort : isShort final = true := isShort_iff.mpr hf
    have hne : final ≠ '[' := by
      intro he
      rw [he] at hf
      exact absurd hf (by decide)
    show afterSequence? (final :: s) = some s
    rw [afterSequence?]
    · simp only [hshort, if_true]
    · exact hne

theorem exists_body_of_afterSequence? {s after : Text} (h : afterSequence? s = some after) :
    ∃ e : EscapeSequence, s = e.body ++ after := by
  unfold afterSequence? at h
  split at h
  · rename_i rest
    split at h
    · rename_i c tail ht
      split at h
      · rename_i hf
        cases h
        refine ⟨.control (rest.takeWhile isParameter)
          ((rest.dropWhile isParameter).takeWhile isIntermediate) c ?_ ?_ (isFinal_iff.mp hf), ?_⟩
        · intro d hd
          exact isParameter_iff.mp (List.all_eq_true.mp List.all_takeWhile d hd)
        · intro d hd
          exact isIntermediate_iff.mp (List.all_eq_true.mp List.all_takeWhile d hd)
        · have hcut : rest.takeWhile isParameter ++ rest.dropWhile isParameter = rest :=
            List.takeWhile_append_dropWhile
          have hcut' : (rest.dropWhile isParameter).takeWhile isIntermediate ++ c :: after
              = rest.dropWhile isParameter := by
            rw [← ht]
            exact List.takeWhile_append_dropWhile
          simp only [EscapeSequence.body, List.cons_append, List.append_assoc, List.nil_append,
            hcut', hcut]
      · cases h
    · cases h
  · rename_i c rest _
    split at h
    · rename_i hs
      cases h
      exact ⟨.short c (isShort_iff.mp hs), rfl⟩
    · cases h
  · cases h

/-! ### Taking sequences out -/

theorem removeSequences_text (e : EscapeSequence) (s : Text) :
    removeSequences (e.text ++ s) = removeSequences s := by
  have hafter := afterSequence?_body e s
  rw [EscapeSequence.text, List.cons_append, removeSequences, if_pos rfl]
  split
  · rename_i after h
    rw [hafter, Option.some.injEq] at h
    rw [h]
  · rename_i h
    rw [hafter] at h
    cases h

theorem removeSequences_append {s : Text} (h : escapeChar ∉ s) (t : Text) :
    removeSequences (s ++ t) = s ++ removeSequences t := by
  induction s with
  | nil => rfl
  | cons c rest ih =>
    rw [List.mem_cons, not_or] at h
    rw [List.cons_append, removeSequences, if_neg (Ne.symm h.1), ih h.2]
    rfl

abbrev PlainText := { s : Text // escapeChar ∉ s }

/-- Plain text with complete escape sequences anywhere in it. -/
structure Woven where
  first : PlainText
  rest : List (EscapeSequence × PlainText)

namespace Woven

def text (w : Woven) : Text := w.first ++ w.rest.flatMap fun piece => piece.1.text ++ piece.2.val

def plain (w : Woven) : Text := w.first ++ w.rest.flatMap fun piece => piece.2.val

end Woven

theorem removeSequences_woven (w : Woven) : removeSequences w.text = w.plain := by
  have hrest : ∀ rest : List (EscapeSequence × PlainText),
      removeSequences (rest.flatMap fun piece => piece.1.text ++ piece.2.val)
        = rest.flatMap fun piece => piece.2.val := by
    -- on the pieces: each begins with its sequence, so the scan stands right before that
    intro rest
    induction rest with
    | nil => rw [List.flatMap_nil, removeSequences, List.flatMap_nil]
    | cons piece more ih =>
      rw [List.flatMap_cons, List.flatMap_cons, List.append_assoc, removeSequences_text,
        removeSequences_append piece.2.property, ih]
  rw [Woven.text, Woven.plain, removeSequences_append w.first.property, hrest]

theorem sanitize_eq_filter (s : Text) :
    sanitize s = (removeSequences s).filter (fun c => ¬ IsDropped c) := by
  rw [sanitize]
  congr 1
  funext c
  rw [Bool.eq_iff_iff, Bool.not_eq_true', decide_eq_true_eq, ← isRemovedControl_iff,
    Bool.not_eq_true]

/-- Of text with sequences anywhere in it only the text is left, without the dropped control
characters, and what is left of any text is left as it is by a second pass. -/
theorem sanitize_woven_again (w : Woven) (s : Text) :
    sanitize w.text = w.plain.filter (fun c => ¬ IsDropped c) ∧
      sanitize (sanitize s) = sanitize s := by
  constructor
  · rw [sanitize_eq_filter, removeSequences_woven]
  · have hnone := removeSequences_eq_self (escapeChar_not_mem_sanitize s)
    rw [sanitize_eq_filter (sanitize s), hnone, sanitize_eq_filter s, List.filter_filter]
    simp only [Bool.and_self]

theorem sanitize_woven_again_colored :
    let red : EscapeSequence := .control "31" [] 'm'
      (List.forall_mem_cons.mpr ⟨by decide, List.forall_mem_singleton.mpr (by decide)⟩) nofun
      (by decide)
    let back : EscapeSequence := .short 'M' (by decide)
    let w : Woven :=
      ⟨⟨"LOCAL_IP=", by decide⟩, [(red, ⟨"[evil", by decide⟩), (back, ⟨"m\r", by decide⟩)]⟩
    w.text = ("LOCAL_IP=\x1B[31m[evil\x1BMm\r" : Text) ∧
      sanitize w.text = ("LOCAL_IP=[evilm" : Text) ∧
      sanitize (sanitize "\x1B\x1B[[mm") = sanitize "\x1B\x1B[[mm" := by
  intro red back w
  have h := sanitize_woven_again w "\x1B\x1B[[mm"
  exact ⟨rfl, h.1.trans (by decide), h.2⟩

/-! ### Control characters that are left -/

theorem filter_removeSequences (s : Text) :
    (removeSequences s).filter (IsHighControl ·) = s.filter (IsHighControl ·) := by
  fun_induction removeSequences s with
  | case1 => rfl
  | case2 rest after h ih =>
    obtain ⟨e, rfl⟩ := exists_body_of_afterSequence? h
    have hnil : e.text.filter (IsHighControl ·) = [] := by
      rw [List.filter_eq_nil_iff]
      intro c hc
      simpa using EscapeSequence.not_isHighControl_of_mem hc
    have hcut : escapeChar :: (e.body ++ after) = e.text ++ after := rfl
    rw [ih, hcut, List.filter_append, hnil, List.nil_append]
  | case3 rest h ih => rw [List.filter_cons, List.filter_cons, ih]
  | case4 c rest h ih => rw [List.filter_cons, List.filter_cons, ih]

theorem filter_sanitize (s : Text) :
    (sanitize s).filter (IsHighControl ·) = s.filter (IsHighControl ·) := by
  rw [sanitize_eq_filter, List.filter_filter, ← filter_removeSequences s]
  congr 1
  funext c
  rw [Bool.eq_iff_iff, Bool.and_eq_true, decide_eq_true_eq, decide_eq_true_eq, and_iff_left_iff_imp]
  simp only [IsHighControl, IsDropped, Within]
  omega

/-- A text in which the tab and the feed are the only control characters. -/
def Safe (s : Text) : Prop := ∀ c ∈ s, IsControl c → c = '\t' ∨ c = '\n'

structure Sanitized (s : Text) : Prop where
  left : ∀ c ∈ sanitize s, IsControl c → c = '\t' ∨ c = '\n' ∨ IsHighControl c
  high : (sanitize s).filter (IsHighControl ·) = s.filter (IsHighControl ·)
  safe : Safe (sanitize s) ↔ ∀ c ∈ s, ¬ IsHighControl c

theorem isControl_cases {c : CodePoint} (hc : IsControl c) (hd : ¬ IsDropped c) :
    c = '\t' ∨ c = '\n' ∨ IsHighControl c := by
  have hcode : c.toNat = 0x09 ∨ c.toNat = 0x0A ∨ IsHighControl c := by
    simp only [IsControl, IsDropped, IsHighControl, Within] at hc hd ⊢
    omega
  rcases hcode with h | h | h
  · exact .inl (CodePoint.toNat_inj.mp h)
  · exact .inr (.inl (CodePoint.toNat_inj.mp h))
  · exact .inr (.inr h)

theorem left_of_sanitize {s : Text} {c : CodePoint} (h : c ∈ sanitize s) (hc : IsControl c) :
    c = '\t' ∨ c = '\n' ∨ IsHighControl c := by
  rw [sanitize_eq_filter, List.mem_filter, decide_eq_true_eq] at h
  exact isControl_cases hc h.2

theorem mem_sanitize_iff {s : Text} {c : CodePoint} (hc : IsHighControl c) :
    c ∈ sanitize s ↔ c ∈ s := by
  have hmem : ∀ t : Text, c ∈ t.filter (IsHighControl ·) ↔ c ∈ t := by
    intro t
    rw [List.mem_filter, decide_eq_true_eq]
    exact and_iff_left hc
  rw [← hmem (sanitize s), filter_sanitize, hmem s]

/-- Of the control characters only the tab, the feed and those of the upper range are left, these
all of them: a sanitized text is safe exactly if the text has no control character of the upper
range. -/
theorem sanitized (s : Text) : Sanitized s where
  left _ h hc := left_of_sanitize h hc
  high := filter_sanitize s
  safe := by
    constructor
    · intro hsafe c hm hc
      have hcontrol : IsControl c := .inr ⟨Nat.le_of_succ_le hc.1, hc.2⟩
      rcases hsafe c ((mem_sanitize_iff hc).mpr hm) hcontrol with rfl | rfl
      · exact absurd hc (by decide)
      · exact absurd hc (by decide)
    · intro hnone c hm hc
      rcases left_of_sanitize hm hc with h | h | h
      · exact .inl h
      · exact .inr h
      · exact absurd h (hnone c ((mem_sanitize_iff h).mp hm))

theorem high_introducer_left :
    sanitize "\u009B" = "\u009B" ∧ ¬ Safe (sanitize "\u009B") := by
  have hleft : sanitize "\u009B" = "\u009B" := by
    rw [sanitize_eq_filter, removeSequences_eq_self (by decide)]
    decide
  refine ⟨hleft, ?_⟩
  intro hsafe
  rw [hleft] at hsafe
  exact absurd (hsafe '\u009B' List.mem_cons_self (by decide)) (by decide)

end NodeSettings.Log
