import NodeSettings.Document.Content
import NodeSettings.Proofs.Document.Entries
import NodeSettings.Proofs.Text.Cut
import NodeSettings.Proofs.Text.Utf8
import Mathlib.Control.Monad.Basic

/-!
# Documents one after the other

A document that is read without fault and ends with a line says the same in front of another one:
no reader goes past a line feed, but for one that looks for the first character of an entry, and
that one leaves the entry to the text that follows. So the bindings of both are those of the first
overlaid with those of the second, and a fault of the second is a fault of both.
-/

namespace NodeSettings.Document

/-! ### Texts that end with a line -/

def EndsLine (s : Text) : Prop := s.getLast? = some (.char '\n')

namespace EndsLine

variable {s : Text}

theorem of_append {a b : Text} (h : EndsLine (a ++ b)) (hb : b ≠ []) : EndsLine b := by
  rw [EndsLine, List.getLast?_append, List.getLast?_eq_some_getLast hb, Option.some_or] at h
  rw [EndsLine, List.getLast?_eq_some_getLast hb, h]

theorem of_cons {c : CodePoint} (h : EndsLine (c :: s)) (hc : c ≠ '\n') : EndsLine s := by
  cases s with
  | nil =>
    rw [EndsLine, List.getLast?_singleton, Option.some.injEq] at h
    exact absurd h hc
  | cons d rest => exact of_append (a := [c]) h (List.cons_ne_nil d rest)

theorem exists_cons (h : EndsLine s) : ∃ c rest, s = c :: rest := by
  cases s with
  | nil => cases h
  | cons c rest => exact ⟨c, rest, rfl⟩

theorem head?_append (h : EndsLine s) (t : Text) : (s ++ t).head? = s.head? := by
  obtain ⟨c, rest, rfl⟩ := h.exists_cons
  rfl

theorem ne_lineFeed {p : CodePoint → Bool} (hp : p '\n' = false) {c : CodePoint} (hc : p c = true) :
    c ≠ '\n' := by
  rintro rfl
  rw [hp] at hc
  cases hc

/-- A stretch of characters that holds no line feed ends within the text. -/
theorem dropWhile {p : CodePoint → Bool} (h : EndsLine s) (hp : p '\n' = false) (t : Text) :
    (s ++ t).dropWhile p = s.dropWhile p ++ t ∧ EndsLine (s.dropWhile p) := by
  induction s with
  | nil => cases h
  | cons c rest ih =>
    rw [List.cons_append, List.dropWhile_cons, List.dropWhile_cons]
    cases hc : p c with
    | false =>
      rw [if_neg Bool.false_ne_true, if_neg Bool.false_ne_true]
      exact ⟨rfl, h⟩
    | true => exact ih (h.of_cons (ne_lineFeed hp hc))

theorem takeWhile {p : CodePoint → Bool} (h : EndsLine s) (hp : p '\n' = false) (t : Text) :
    (s ++ t).takeWhile p = s.takeWhile p := by
  induction s with
  | nil => cases h
  | cons c rest ih =>
    rw [List.cons_append, List.takeWhile_cons, List.takeWhile_cons]
    cases hc : p c with
    | false => rfl
    | true => rw [ih (h.of_cons (ne_lineFeed hp hc))]

end EndsLine

/-! ### Values -/

theorem readQuoted_cons {escape? : CodePoint → Option CodePoint} {quote c : CodePoint}
    (hc : c ≠ '\\') (rest : Text) :
    readQuoted escape? quote (c :: rest)
      = if c = quote then some ([], rest)
        else (readQuoted escape? quote rest).map fun read => (c :: read.1, read.2) := by
  rw [readQuoted]
  · split
    · rfl
    · cases readQuoted escape? quote rest <;> rfl
  · intro d more h
    exact absurd h hc

theorem readQuoted_append {escape? : CodePoint → Option CodePoint} {quote : CodePoint}
    (hq : quote ≠ '\\') {s value after : Text}
    (h : readQuoted escape? quote s = some (value, after)) (t : Text) :
    readQuoted escape? quote (s ++ t) = some (value, after ++ t) ∧
      ∃ before, s = before ++ quote :: after := by
  fun_induction readQuoted escape? quote s generalizing value after with
  | case1 => cases h
  | case2 c rest value' after' hr ih =>
    cases h
    obtain ⟨happ, before, rfl⟩ := ih hr
    refine ⟨?_, '\\' :: c :: before, rfl⟩
    rw [List.cons_append, List.cons_append, readQuoted, happ]
  | case3 => cases h
  | case4 rest =>
    cases h
    refine ⟨?_, [], rfl⟩
    rw [List.cons_append, readQuoted_cons hq, if_pos rfl]
  | case5 c rest hpair hne value' after' hr ih =>
    cases h
    obtain ⟨happ, before, rfl⟩ := ih hr
    have hc : c ≠ '\\' := by
      rintro rfl
      cases before <;> exact hpair _ _ rfl rfl
    refine ⟨?_, c :: before, rfl⟩
    rw [List.cons_append, readQuoted_cons hc, if_neg hne, happ]
    rfl
  | case6 => cases h

variable {s rest : Text}

theorem readQuoted_endsLine {escape? : CodePoint → Option CodePoint} {quote : CodePoint}
    (hq : quote ≠ '\\') (hline : quote ≠ '\n') (hs : EndsLine s) {value : Text}
    (h : readQuoted escape? quote s = some (value, rest)) (t : Text) :
    readQuoted escape? quote (s ++ t) = some (value, rest ++ t) ∧ EndsLine rest := by
  obtain ⟨happ, before, rfl⟩ := readQuoted_append hq h t
  have hquote : EndsLine (quote :: rest) := hs.of_append (List.cons_ne_nil quote rest)
  exact ⟨happ, hquote.of_cons hline⟩

theorem readValue?_endsLine (hs : EndsLine s) {value : Text}
    (h : readValue? s = some (value, rest)) (t : Text) :
    readValue? (s ++ t) = some (value, rest ++ t) ∧ EndsLine rest := by
  unfold readValue? at h
  split at h
  · exact readQuoted_endsLine (by decide) (by decide) (hs.of_cons (by decide)) h t
  · exact readQuoted_endsLine (by decide) (by decide) (hs.of_cons (by decide)) h t
  · rename_i hsingle hdouble
    obtain ⟨hafter, hends⟩ := hs.dropWhile (p := (!Text.isLineEnd ·)) (by decide) t
    have hrest : restOfLine (s ++ t) = restOfLine s := hs.takeWhile (by decide) t
    cases h
    refine ⟨?_, hends⟩
    obtain ⟨c, more, rfl⟩ := hs.exists_cons
    unfold readValue?
    split
    · rename_i heq
      cases heq
      exact absurd rfl (hsingle more)
    · rename_i heq
      cases heq
      exact absurd rfl (hdouble more)
    · rw [unquoted, hrest, afterLine, hafter]
      rfl

theorem readAssigned_endsLine (hs : EndsLine s) {value : Text}
    (h : readAssigned s = .ok (value, rest)) (t : Text) :
    readAssigned (s ++ t) = .ok (value, rest ++ t) ∧ EndsLine rest := by
  obtain ⟨hdrop, hends⟩ := hs.dropWhile (p := Text.isGap) (by decide) t
  simp only [readAssigned] at h
  simp only [readAssigned, hdrop, hs.head?_append, hends.head?_append]
  split at h
  · rename_i hempty
    cases h
    rw [if_pos hempty]
    exact ⟨rfl, hends⟩
  · rename_i hfull
    rw [if_neg hfull]
    split at h
    · rename_i result hr
      cases h
      obtain ⟨happ, hafter⟩ := readValue?_endsLine hends hr t
      rw [happ]
      exact ⟨rfl, hafter⟩
    · cases h

theorem readOptionalValue_endsLine (hs : EndsLine s) {value? : Option Text}
    (h : readOptionalValue s = .ok (value?, rest)) (t : Text) :
    readOptionalValue (s ++ t) = .ok (value?, rest ++ t) ∧ EndsLine rest := by
  unfold readOptionalValue at h
  split at h
  · split at h
    · rename_i hr
      cases h
      obtain ⟨happ, hafter⟩ := readAssigned_endsLine (hs.of_cons (by decide)) hr t
      simp only [List.cons_append, readOptionalValue, happ]
      exact ⟨trivial, hafter⟩
    · cases h
  · rename_i hne
    cases h
    refine ⟨?_, hs⟩
    obtain ⟨c, more, rfl⟩ := hs.exists_cons
    unfold readOptionalValue
    split
    · rename_i heq
      cases heq
      exact absurd rfl (hne more)
    · rfl

/-! ### Lines -/

theorem skipExport_endsLine (hs : EndsLine s) (t : Text) :
    skipExport (s ++ t) = skipExport s ++ t ∧ EndsLine (skipExport s) := by
  have hword : .char '\n' ∉ ("export" : Text) := by decide
  cases hm : Text.dropMark? "export" s with
  | some more =>
    have hsplit := Text.dropMark?_eq_some_iff.mp hm
    have happ : Text.dropMark? "export" (s ++ t) = some (more ++ t) := by
      rw [Text.dropMark?_eq_some_iff, hsplit, List.append_assoc]
    have hne : more ≠ [] := by
      rintro rfl
      rw [hsplit, List.append_nil] at hs
      exact hword (List.mem_of_getLast? hs)
    have hmore : EndsLine more := by
      rw [hsplit] at hs
      exact hs.of_append hne
    obtain ⟨hdrop, hends⟩ := hmore.dropWhile (p := Text.isGap) (by decide) t
    simp only [skipExport, hm, happ, hmore.head?_append, hdrop]
    split
    · exact ⟨rfl, hends⟩
    · exact ⟨rfl, hs⟩
  | none =>
    have happ : Text.dropMark? "export" (s ++ t) = none := by
      cases hm' : Text.dropMark? "export" (s ++ t) with
      | none => rfl
      | some more =>
        rcases List.append_eq_append_iff.mp (Text.dropMark?_eq_some_iff.mp hm') with
          ⟨word, hw, -⟩ | ⟨word, hw, -⟩
        · have hmem : .char '\n' ∈ ("export" : Text) := by
            rw [hw]
            exact List.mem_append_left word (List.mem_of_getLast? hs)
          exact absurd hmem hword
        · rw [Text.dropMark?_eq_some_iff.mpr hw] at hm
          cases hm
    simp only [skipExport, hm, happ]
    exact ⟨trivial, hs⟩

theorem readKey?_quoted {key : Text} (hne : key ≠ []) (hq : .char '\'' ∉ key) (after : Text) :
    readKey? (.char '\'' :: (key ++ .char '\'' :: after)) = some (some key, after) := by
  have hempty : key.isEmpty = false := by simpa using hne
  simp only [readKey?, Text.takeWhile_ne_append hq, Text.dropWhile_ne_append hq, hempty,
    Bool.false_eq_true, if_false]

theorem exists_quoted_of_readKey? {tail : Text} {key? : Option Text}
    (h : readKey? ('\'' :: tail) = some (key?, rest)) :
    ∃ key, key? = some key ∧ key ≠ [] ∧ .char '\'' ∉ key ∧ tail = key ++ .char '\'' :: rest := by
  simp only [readKey?] at h
  split at h
  · rename_i quote after hd
    split at h
    · cases h
    · rename_i hempty
      cases h
      exact ⟨_, rfl, by simpa using hempty, Text.not_mem_takeWhile_ne '\'' tail,
        Text.eq_of_dropWhile_ne hd⟩
  · cases h

theorem readKey?_endsLine (hs : EndsLine s) {key? : Option Text}
    (h : readKey? s = some (key?, rest)) (t : Text) :
    readKey? (s ++ t) = some (key?, rest ++ t) ∧ EndsLine rest := by
  unfold readKey? at h
  split at h
  · cases h
    exact ⟨rfl, hs⟩
  · rename_i tail
    have hkey : readKey? ('\'' :: tail) = some (key?, rest) := h
    obtain ⟨key, rfl, hne, hq, rfl⟩ := exists_quoted_of_readKey? hkey
    have hquote : EndsLine ('\'' :: rest) :=
      (hs.of_cons (by decide)).of_append (List.cons_ne_nil _ rest)
    refine ⟨?_, hquote.of_cons (by decide)⟩
    rw [List.cons_append, List.append_assoc, List.cons_append]
    exact readKey?_quoted hne hq (rest ++ t)
  · rename_i hhash hquote
    obtain ⟨hdrop, hends⟩ := hs.dropWhile (p := isKeyChar) (by decide) t
    have htake := hs.takeWhile (p := isKeyChar) (by decide) t
    obtain ⟨c, more, rfl⟩ := hs.exists_cons
    simp only at h
    split at h
    · cases h
    · rename_i hne
      cases h
      refine ⟨?_, hends⟩
      unfold readKey?
      split
      · rename_i heq
        cases heq
        exact absurd rfl (hhash more)
      · rename_i heq
        cases heq
        exact absurd rfl (hquote more)
      · simp only [htake, hdrop, if_neg hne]

theorem skipComment_endsLine (hs : EndsLine s) (t : Text) :
    skipComment (s ++ t) = skipComment s ++ t ∧ EndsLine (skipComment s) := by
  obtain ⟨hdrop, hends⟩ := hs.dropWhile (p := Text.isGap) (by decide) t
  obtain ⟨hline, hafter⟩ := hends.dropWhile (p := (!Text.isLineEnd ·)) (by decide) t
  simp only [skipComment, hdrop, hends.head?_append, afterLine, hline]
  split
  · exact ⟨rfl, hafter⟩
  · exact ⟨rfl, hends⟩

/-- A text of whole lines: it is empty or ends with a line. -/
def WholeLines (s : Text) : Prop := s = [] ∨ EndsLine s

theorem readLineEnd?_endsLine (hs : EndsLine s) (h : readLineEnd? s = some rest) (t : Text) :
    readLineEnd? (s ++ t) = some (rest ++ t) ∧ WholeLines rest := by
  obtain ⟨hskip, hends⟩ := skipComment_endsLine hs t
  unfold readLineEnd? at h ⊢
  rw [hskip]
  split at h
  · rename_i hnil
    rw [hnil] at hends
    cases hends
  · rename_i more hline
    cases h
    rw [hline] at hends ⊢
    refine ⟨rfl, ?_⟩
    cases rest with
    | nil => exact .inl rfl
    | cons c more => exact .inr (hends.of_append (a := ['\r', '\n']) (List.cons_ne_nil c more))
  · rename_i c more hpair hline
    rw [hline] at hends ⊢
    split at h
    · rename_i hend
      cases h
      cases rest with
      | nil =>
        -- a line feed, as the text ends with it, and so no return that another feed could join
        have hc : c = '\n' := by simpa [EndsLine] using hends
        subst hc
        exact ⟨rfl, .inl rfl⟩
      | cons d more =>
        refine ⟨?_, .inr (hends.of_append (a := [c]) (List.cons_ne_nil d more))⟩
        split
        · rename_i heq
          cases heq
        · rename_i heq
          cases heq
          exact (hpair more rfl rfl).elim
        · rename_i heq
          cases heq
          exact if_pos hend
    · cases h

/-! ### Entries -/

theorem readBinding_endsLine (hs : EndsLine s) {pair? : Option Pair}
    (h : readBinding s = .ok (pair?, rest)) (t : Text) :
    readBinding (s ++ t) = .ok (pair?, rest ++ t) ∧ WholeLines rest := by
  obtain ⟨hexport, hbody⟩ := skipExport_endsLine hs t
  simp only [readBinding] at h ⊢
  rw [hexport]
  split at h
  · cases h
  · rename_i key? afterKey hkey
    obtain ⟨hkey', hafterKey⟩ := readKey?_endsLine hbody hkey t
    obtain ⟨hgap, hgapEnds⟩ := hafterKey.dropWhile (p := Text.isGap) (by decide) t
    split at h
    · cases h
    · rename_i value? afterValue hvalue
      obtain ⟨hvalue', hafterValue⟩ := readOptionalValue_endsLine hgapEnds hvalue t
      split at h
      · cases h
      · rename_i hend
        cases h
        obtain ⟨hend', hrest⟩ := readLineEnd?_endsLine hafterValue hend t
        simp only [hkey', hgap, hvalue', hend']
        exact ⟨trivial, hrest⟩

/-- An entry without fault that is more than blank lines is the same in front of another text. -/
theorem readEntry_endsLine (hs : EndsLine s) (hblank : s.dropWhile Text.isBlank ≠ [])
    {entry : Entry} (hentry : entry ≠ .malformed) (h : readEntry s = (entry, rest)) (t : Text) :
    readEntry (s ++ t) = (entry, rest ++ t) ∧ WholeLines rest := by
  have happ : (s ++ t).dropWhile Text.isBlank = s.dropWhile Text.isBlank ++ t := by
    rw [List.dropWhile_append, if_neg (by simpa using hblank)]
  have hends : EndsLine (s.dropWhile Text.isBlank) := by
    rw [← List.takeWhile_append_dropWhile (p := Text.isBlank) (l := s)] at hs
    exact hs.of_append hblank
  obtain ⟨c, body, hcons⟩ := hends.exists_cons
  simp only [readEntry, happ, hcons, List.cons_append] at h ⊢
  rw [hcons] at hends
  cases hb : readBinding (c :: body) with
  | error stuck =>
    simp only [hb] at h
    cases h
    exact absurd rfl hentry
  | ok result =>
    obtain ⟨pair?, after⟩ := result
    obtain ⟨hb', hafter⟩ := readBinding_endsLine hends hb t
    rw [List.cons_append] at hb'
    simp only [hb] at h
    simp only [hb']
    cases pair? <;> cases h <;> exact ⟨rfl, hafter⟩

theorem significant_append (hs : WholeLines s) (h : .malformed ∉ significant s) (t : Text) :
    significant (s ++ t) = significant s ++ significant t := by
  induction s using places.induct with
  | case1 => rw [significant_nil, List.nil_append, List.nil_append]
  | case2 c body ih =>
    have hends : EndsLine (c :: body) := hs.resolve_left (List.cons_ne_nil c body)
    by_cases hblank : (c :: body).dropWhile Text.isBlank = []
    · have happ : (c :: body ++ t).dropWhile Text.isBlank = t.dropWhile Text.isBlank := by
        rw [List.dropWhile_append, if_pos (by simp [hblank])]
      rw [← significant_dropWhile (c :: body ++ t), happ, significant_dropWhile,
        ← significant_dropWhile (c :: body), hblank, significant_nil, List.nil_append]
    · have hcut := significant_of_ne_nil (List.cons_ne_nil c body)
      have hcut' := significant_of_ne_nil (s := c :: body ++ t) (List.cons_ne_nil c (body ++ t))
      cases he : readEntry (c :: body) with
      | mk entry rest =>
        rw [he] at ih hcut
        rw [hcut, List.mem_append, not_or] at h
        have hentry : entry ≠ .malformed := by
          rintro rfl
          exact h.1 (by simp)
        obtain ⟨happ, hrest⟩ := readEntry_endsLine hends hblank hentry he t
        rw [hcut', happ, hcut, ih hrest h.2, List.append_assoc]

/-! ### Bindings -/

theorem withoutMark_append {s : Text} (hs : EndsLine s) (t : Text) :
    withoutMark (s ++ t) = withoutMark s ++ t ∧ EndsLine (withoutMark s) := by
  obtain ⟨c, rest, rfl⟩ := hs.exists_cons
  by_cases hc : c = '\uFEFF'
  · subst hc
    exact ⟨rfl, hs.of_cons (by decide)⟩
  · have hmark : (c :: rest).head? ≠ some (.char '\uFEFF') := by simpa using hc
    have hmark' : (c :: rest ++ t).head? ≠ some (.char '\uFEFF') := by simpa using hc
    rw [withoutMark_of_head? hmark, withoutMark_of_head? hmark']
    exact ⟨rfl, hs⟩

/-- Whole lines without fault in front of a document put their bindings in front of its bindings. -/
theorem bindings_append {s t : Text} {b : Bindings} (hs : WholeLines s)
    (hmark : t.head? ≠ some (.char '\uFEFF')) (h : bindings s = .ok b) {b' : Bindings} :
    bindings (s ++ t) = .ok b' ↔ ∃ b₂, bindings t = .ok b₂ ∧ b' = b ++ b₂ := by
  obtain ⟨hok, rfl⟩ := bindings_eq_ok_iff.mp h
  have happ : withoutMark (s ++ t) = withoutMark s ++ t ∧ WholeLines (withoutMark s) := by
    rcases hs with rfl | hs
    · exact ⟨withoutMark_of_head? hmark, .inl rfl⟩
    · obtain ⟨happ, hends⟩ := withoutMark_append hs t
      exact ⟨happ, .inr hends⟩
  have hentries := significant_append happ.2 hok t
  simp only [bindings_eq_ok_iff, happ.1, hentries, withoutMark_of_head? hmark, List.mem_append,
    hok, false_or, List.filterMap_append]
  constructor
  · rintro ⟨hnone, rfl⟩
    exact ⟨_, ⟨hnone, rfl⟩, rfl⟩
  · rintro ⟨b₂, ⟨hnone, rfl⟩, rfl⟩
    exact ⟨hnone, rfl⟩

end NodeSettings.Document

/-! ### Properties files -/

namespace NodeSettings
open Document

theorem readProperties_of_text {read : FileReader} {path text : Text}
    (h : read.Holds path text) :
    readProperties read path
      = match bindings text with
        | .ok b => .ok b
        | .error line => .error (.refused (.malformedLine line)) := by
  obtain ⟨octets, hread, hencode⟩ := h
  simp only [readProperties, hread, readContent, Utf8.decode_of_encode hencode]
  cases bindings text <;> rfl

/-- A properties file of whole lines that is read without fault, and another one: the file of both
texts is read exactly if the second is, and the bindings of the second then win. -/
theorem readProperties_append {read : FileReader} {path₁ path₂ path : Text} {s t : Text}
    {b₁ : Bindings} (h₁ : read.Holds path₁ s) (h₂ : read.Holds path₂ t)
    (h : read.Holds path (s ++ t)) (hs : s = [] ∨ s.getLast? = some (.char '\n'))
    (hmark : t.head? ≠ some (.char '\uFEFF')) (hb₁ : readProperties read path₁ = .ok b₁) :
    match readProperties read path₂ with
    | .ok b₂ => ∃ b, readProperties read path = .ok b ∧
        ∀ key, b.get? key = (b₂.get? key).or (b₁.get? key)
    | .error _ => ∃ line, readProperties read path = .error (.refused (.malformedLine line)) := by
  have hfirst : bindings s = .ok b₁ := by
    rw [readProperties_of_text h₁] at hb₁
    split at hb₁ <;> cases hb₁
    assumption
  have happ : ∀ b, bindings (s ++ t) = .ok b ↔ ∃ b₂, bindings t = .ok b₂ ∧ b = b₁ ++ b₂ :=
    fun b => bindings_append hs hmark hfirst
  rw [readProperties_of_text h₂, readProperties_of_text h]
  cases ht : bindings t with
  | ok b₂ =>
    have hboth := (happ (b₁ ++ b₂)).mpr ⟨b₂, ht, rfl⟩
    simp only [hboth]
    exact ⟨b₁ ++ b₂, rfl, Bindings.get?_append b₁ b₂⟩
  | error line =>
    cases hst : bindings (s ++ t) with
    | ok b =>
      obtain ⟨b₂, hok, -⟩ := (happ b).mp hst
      rw [ht] at hok
      cases hok
    | error line' => exact ⟨line', rfl⟩

theorem readProperties_append_quoted :
    let s : String := "export A='x\n#=' # note\r\n'two\nlines' \n\n \n"
    let t : String := " \n A = 2\nB"
    let read : FileReader := fun path =>
      .ok (Utf8.ofString (if path = "s" then s else if path = "t" then t else s ++ t))
    let b₁ : Bindings := [("A", "x\n#="), ("two\nlines", "")]
    let b₂ : Bindings := [("A", "2"), ("B", "")]
    (read.Holds "s" s ∧ read.Holds "t" t ∧ read.Holds "both" (Text.ofString s ++ Text.ofString t) ∧
      (Text.ofString s = [] ∨ (Text.ofString s).getLast? = some (.char '\n')) ∧
      (Text.ofString t).head? ≠ some (.char '\uFEFF') ∧ readProperties read "s" = .ok b₁) ∧
    readProperties read "t" = .ok b₂ ∧
      ∃ b, readProperties read "both" = .ok b ∧
        ∀ key, b.get? key = (b₂.get? key).or (b₁.get? key) := by
  intro s t read b₁ b₂
  have h₁ : read.Holds "s" s := FileReader.holds_ofString rfl
  have h₂ : read.Holds "t" t := FileReader.holds_ofString rfl
  have h : read.Holds "both" (Text.ofString s ++ Text.ofString t) := by
    rw [← Text.ofString_append]
    exact FileReader.holds_ofString rfl
  have hs : Text.ofString s = [] ∨ (Text.ofString s).getLast? = some (.char '\n') := by decide
  have hmark : (Text.ofString t).head? ≠ some (.char '\uFEFF') := by decide
  have hb₁ : readProperties read "s" = .ok b₁ := by decide +kernel
  have hb₂ : readProperties read "t" = .ok b₂ := by decide +kernel
  have happ := readProperties_append h₁ h₂ h hs hmark hb₁
  rw [hb₂] at happ
  exact ⟨⟨h₁, h₂, h, hs, hmark, hb₁⟩, hb₂, happ⟩

end NodeSettings
