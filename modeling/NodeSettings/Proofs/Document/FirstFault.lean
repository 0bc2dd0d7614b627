import NodeSettings.Proofs.Document.Writing
import Mathlib.Data.List.DropRight

/-!
# The first fault of a document

Lines without fault may stand before one that holds two words and no equals sign. The reader is
stuck in that line, but it marked its place before it passed over blank lines: what it reports is
the line with the blank lines right before it, under the number of the first of them. So the line
is reported as itself exactly if no blank line stands right before it.
-/

namespace NodeSettings

/-! ### Counting lines -/

namespace Text

theorem lineEnds_cons_of_not {c : CodePoint} (hc : isLineEnd c = false) (s : Text) :
    lineEnds (c :: s) = lineEnds s := by
  rw [lineEnds]
  · rw [hc, if_neg Bool.false_ne_true]
  · rintro rest rfl
    cases hc

theorem lineEnds_line {body : Text} (h : ∀ c ∈ body, isLineEnd c = false) (s : Text) :
    lineEnds (body ++ .char '\n' :: s) = lineEnds s + 1 := by
  induction body with
  | nil => rfl
  | cons c rest ih =>
    have hrest : ∀ d ∈ rest, isLineEnd d = false := by
      intro d hd
      exact h d (List.mem_cons_of_mem c hd)
    rw [List.cons_append, lineEnds_cons_of_not (h c List.mem_cons_self), ih hrest]

end Text

namespace Document

/-! ### Entries behind blank lines -/

theorem readEntry_blank {blank : Text} (h : ∀ c ∈ blank, Text.isBlank c) (s : Text) :
    readEntry (blank ++ s) = readEntry s := by
  simp only [readEntry, List.dropWhile_append_of_pos h]

/-- The place of the first entry that is malformed. -/
def firstFault? (s : Text) : Option Place :=
  (places s).find? fun place => place.entry = .malformed

theorem firstFault?_of_ne_nil {s : Text} (hs : s ≠ []) :
    firstFault? s
      = if (readEntry s).1 = .malformed then some ⟨(readEntry s).1, s, (readEntry s).2⟩
        else firstFault? (readEntry s).2 := by
  obtain ⟨c, body, rfl⟩ := List.exists_cons_of_ne_nil hs
  rw [firstFault?, places, List.find?_cons]
  by_cases he : (readEntry (c :: body)).1 = .malformed
  · simp [he]
  · simp [he, firstFault?]

theorem bindings_of_firstFault? {document : Text} {place : Place}
    (h : firstFault? (withoutMark document) = some place) :
    bindings document = .error (malformedLine (withoutMark document) place) := by
  rw [firstFault?] at h
  simp only [bindings, h]

theorem malformedLine_eq (before body rest : Text) (entry : Entry) :
    malformedLine (before ++ (body ++ rest)) ⟨entry, body ++ rest, rest⟩
      = ⟨Text.lineEnds before + 1, (body.reverse.dropWhile Text.isLineEnd).reverse⟩ := by
  have hbefore : (before ++ (body ++ rest)).take
      ((before ++ (body ++ rest)).length - (body ++ rest).length) = before := by
    simp
  have hbody : (body ++ rest).take ((body ++ rest).length - rest.length) = body := by
    simp
  simp only [malformedLine, Place.source, hbefore, hbody]

/-! ### Lines without fault -/

/-- A comment on a line of its own. -/
structure Comment where
  indent : Text
  note : Text
  isGap_indent : indent.all Text.isGap
  onLine_note : note.all (!Text.isLineEnd ·)

/-- A line that assigns a value without quotes to a key; the word that marks an export may be the
key where the equals sign follows it at once. -/
structure PlainAssignment where
  indent : Text
  key : Text
  gap : Text
  /-- All that stands after the equals sign, a comment included. -/
  value : Text
  isGap_indent : indent.all Text.isGap
  plainKey : PlainKey key
  isGap_gap : gap.all Text.isGap
  unmarked : key = "export" → gap = []
  onLine_value : value.all (!Text.isLineEnd ·)
  unquoted : (value.dropWhile Text.isGap).head?.all fun c =>
    c ≠ .char '\'' && c ≠ .char '"'

/-- A line that is read without fault and has no quotes. -/
inductive PlainLine where
  | blank (gap : Text) (isGap : gap.all Text.isGap)
  | comment (comment : Comment)
  | assignment (assignment : PlainAssignment)

namespace PlainLine

def body : PlainLine → Text
  | blank gap _ => gap
  | comment c => c.indent ++ .char '#' :: c.note
  | assignment a => a.indent ++ (a.key ++ (a.gap ++ .char '=' :: a.value))

def text (line : PlainLine) : Text := line.body ++ [.char '\n']

def isBlank : PlainLine → Bool
  | blank _ _ => true
  | _ => false

theorem isLineEnd_of_mem_gap {gap : Text} (h : gap.all Text.isGap) :
    ∀ c ∈ gap, Text.isLineEnd c = false := by
  intro c hc
  exact Text.isLineEnd_of_isGap (List.all_eq_true.mp h c hc)

theorem isLineEnd_of_all {s : Text} (h : s.all (!Text.isLineEnd ·)) :
    ∀ c ∈ s, Text.isLineEnd c = false := by
  intro c hc
  simpa using List.all_eq_true.mp h c hc

theorem isLineEnd_of_mem_body (line : PlainLine) : ∀ c ∈ line.body, Text.isLineEnd c = false := by
  intro c hc
  cases line with
  | blank gap isGap => exact isLineEnd_of_mem_gap isGap c hc
  | comment comment =>
    simp only [body, List.mem_append, List.mem_cons] at hc
    rcases hc with hc | rfl | hc
    · exact isLineEnd_of_mem_gap comment.isGap_indent c hc
    · rfl
    · exact isLineEnd_of_all comment.onLine_note c hc
  | assignment a =>
    simp only [body, List.mem_append, List.mem_cons] at hc
    rcases hc with hc | hc | hc | rfl | hc
    · exact isLineEnd_of_mem_gap a.isGap_indent c hc
    · exact Text.isLineEnd_of_not_isBlank (not_isBlank_of_isKeyChar (a.plainKey.chars c hc))
    · exact isLineEnd_of_mem_gap a.isGap_gap c hc
    · rfl
    · exact isLineEnd_of_all a.onLine_value c hc

theorem lineEnds_flatMap (lines : List PlainLine) :
    Text.lineEnds (lines.flatMap text) = lines.length := by
  induction lines with
  | nil => rfl
  | cons line rest ih =>
    rw [List.flatMap_cons, text, List.append_assoc, List.singleton_append,
      Text.lineEnds_line line.isLineEnd_of_mem_body, ih, List.length_cons]

theorem isBlank_of_mem_text {line : PlainLine} (h : line.isBlank) :
    ∀ c ∈ line.text, Text.isBlank c := by
  cases line with
  | blank gap isGap =>
    intro c hc
    simp only [text, body, List.mem_append, List.mem_singleton] at hc
    rcases hc with hc | rfl
    · exact Text.isBlank_of_isGap (List.all_eq_true.mp isGap c hc)
    · decide
  | comment => cases h
  | assignment => cases h

end PlainLine

/-! ### Reading a line without fault -/

theorem readEntry_indented {indent : Text} (h : indent.all Text.isGap) (s : Text) :
    readEntry (indent ++ s) = readEntry s := by
  apply readEntry_blank
  intro c hc
  exact Text.isBlank_of_isGap (List.all_eq_true.mp h c hc)

theorem readLineEnd?_comment {note : Text} (h : ∀ c ∈ note, Text.isLineEnd c = false) (t : Text) :
    readLineEnd? (.char '#' :: (note ++ .char '\n' :: t)) = some t := by
  have hgap : Text.isGap '#' = false := by decide
  have hcomment : ∀ c ∈ .char '#' :: note, Text.isLineEnd c = false := by
    intro c hc
    rcases List.mem_cons.mp hc with rfl | hc
    · rfl
    · exact h c hc
  have hafter : afterLine (.char '#' :: note ++ .char '\n' :: t) = .char '\n' :: t :=
    afterLine_append hcomment rfl
  rw [List.cons_append] at hafter
  have hskip : skipComment (.char '#' :: (note ++ .char '\n' :: t)) = .char '\n' :: t := by
    simp [skipComment, hgap, hafter]
  simp only [readLineEnd?, hskip]
  rfl

theorem readEntry_comment (comment : Comment) (t : Text) :
    readEntry ((PlainLine.comment comment).text ++ t) = (.nothing, t) := by
  have hnote := PlainLine.isLineEnd_of_all comment.onLine_note
  have hblank : Text.isBlank '#' = false := by decide
  have hgap : Text.isGap '#' = false := by decide
  have hexport : skipExport (.char '#' :: (comment.note ++ .char '\n' :: t))
      = .char '#' :: (comment.note ++ .char '\n' :: t) := rfl
  have hbinding : readBinding (.char '#' :: (comment.note ++ .char '\n' :: t)) = .ok (none, t) := by
    simp only [readBinding, hexport, readKey?, List.dropWhile_cons, hgap, Bool.false_eq_true,
      if_false, readOptionalValue_hash, readLineEnd?_comment hnote, Option.map_none]
  have htext : (PlainLine.comment comment).text ++ t
      = comment.indent ++ .char '#' :: (comment.note ++ .char '\n' :: t) := by
    simp [PlainLine.text, PlainLine.body]
  rw [htext, readEntry_indented comment.isGap_indent]
  simp only [readEntry, List.dropWhile_cons, hblank, Bool.false_eq_true, if_false, hbinding]

/-- An unquoted value and a comment behind it end with the line. -/
theorem readAssigned_unquoted {value : Text} (h : ∀ c ∈ value, Text.isLineEnd c = false)
    (hsingle : (value.dropWhile Text.isGap).head? ≠ some (.char '\''))
    (hdouble : (value.dropWhile Text.isGap).head? ≠ some (.char '"')) (t : Text) :
    ∃ read after, readAssigned (value ++ .char '\n' :: t) = .ok (read, after) ∧
      readLineEnd? after = some t := by
  have hrest : ∀ c ∈ value.dropWhile Text.isGap, Text.isLineEnd c = false := by
    intro c hc
    exact h c ((List.dropWhile_sublist Text.isGap).subset hc)
  have hdrop : (value ++ .char '\n' :: t).dropWhile Text.isGap
      = value.dropWhile Text.isGap ++ .char '\n' :: t := by
    have hgap : Text.isGap '\n' = false := by decide
    rw [List.dropWhile_append]
    split
    · rename_i hnil
      rw [List.isEmpty_iff.mp hnil, List.dropWhile_cons, hgap, if_neg Bool.false_ne_true,
        List.nil_append]
    · rfl
  simp only [readAssigned, hdrop]
  generalize value.dropWhile Text.isGap = rest at hsingle hdouble hrest
  by_cases hcomment : ((value ++ .char '\n' :: t).head?.any Text.isGap
      && (rest ++ .char '\n' :: t).head? = some (.char '#')) = true
  · rw [if_pos hcomment]
    refine ⟨[], rest ++ .char '\n' :: t, rfl, ?_⟩
    have hhead : (rest ++ .char '\n' :: t).head? = some (.char '#') := by
      simp only [Bool.and_eq_true, decide_eq_true_eq] at hcomment
      exact hcomment.2
    cases rest with
    | nil => cases hhead
    | cons c note =>
      cases hhead
      exact readLineEnd?_comment (fun c hc => hrest c (List.mem_cons_of_mem _ hc)) t
  · have hread : readValue? (rest ++ .char '\n' :: t)
        = some (Text.trimEnd (beforeComment false rest), .char '\n' :: t) :=
      readValue?_unquoted hsingle hdouble hrest rfl
    rw [if_neg hcomment, hread]
    exact ⟨_, '\n' :: t, rfl, rfl⟩

theorem readEntry_assignment (a : PlainAssignment) (t : Text) :
    ∃ value,
      readEntry ((PlainLine.assignment a).text ++ t) = (.binding (a.key, some value), t) := by
  have hvalue := PlainLine.isLineEnd_of_all a.onLine_value
  have hunquoted : ∀ c, (c ≠ .char '\'' && c ≠ .char '"') = false →
      (a.value.dropWhile Text.isGap).head? ≠ some c := by
    intro c hc hhead
    have hall := a.unquoted
    rw [hhead, Option.all_some, hc] at hall
    cases hall
  obtain ⟨value, after, hread, hend⟩ :=
    readAssigned_unquoted hvalue (hunquoted '\'' (by decide)) (hunquoted '"' (by decide)) t
  have hoptional : readOptionalValue (.char '=' :: (a.value ++ .char '\n' :: t))
      = .ok (some value, after) := by
    simp only [readOptionalValue, hread]
  have hbinding := readBinding_assigned a.plainKey (List.all_eq_true.mp a.isGap_gap) a.unmarked
    hoptional hend
  have htext : (PlainLine.assignment a).text ++ t
      = a.indent ++ (a.key ++ (a.gap ++ .char '=' :: (a.value ++ .char '\n' :: t))) := by
    simp [PlainLine.text, PlainLine.body]
  refine ⟨value, ?_⟩
  rw [htext, readEntry_indented a.isGap_indent, readEntry_key a.plainKey, hbinding]

/-- A line without fault that is not blank is one entry together with the blank lines before it. -/
theorem readEntry_plainLine {line : PlainLine} (hline : line.isBlank = false) {blank : Text}
    (hblank : ∀ c ∈ blank, Text.isBlank c) (t : Text) :
    ∃ entry, entry ≠ .malformed ∧ readEntry (blank ++ (line.text ++ t)) = (entry, t) := by
  rw [readEntry_blank hblank]
  cases line with
  | blank => cases hline
  | comment comment => exact ⟨.nothing, by simp, readEntry_comment comment t⟩
  | assignment a =>
    obtain ⟨value, hread⟩ := readEntry_assignment a t
    exact ⟨.binding (a.key, some value), by simp, hread⟩

theorem firstFault?_plainLines {lines : List PlainLine} (hne : lines ≠ [])
    (hlast : lines.getLast?.all (!·.isBlank)) {blank : Text} (hblank : ∀ c ∈ blank, Text.isBlank c)
    (t : Text) :
    firstFault? (blank ++ (lines.flatMap PlainLine.text ++ t)) = firstFault? t := by
  induction lines generalizing blank with
  | nil => exact absurd rfl hne
  | cons line rest ih =>
    rw [List.flatMap_cons, List.append_assoc]
    cases hline : line.isBlank with
    | false =>
      obtain ⟨entry, hentry, hread⟩ :=
        readEntry_plainLine hline hblank (rest.flatMap PlainLine.text ++ t)
      have hcons : blank ++ (line.text ++ (rest.flatMap PlainLine.text ++ t)) ≠ [] := by
        simp [PlainLine.text]
      rw [firstFault?_of_ne_nil hcons, hread, if_neg hentry]
      cases rest with
      | nil => rfl
      | cons next more => exact ih (List.cons_ne_nil next more) hlast (List.forall_mem_nil _)
    | true =>
      cases rest with
      | nil =>
        rw [List.getLast?_singleton, Option.all_some, hline] at hlast
        cases hlast
      | cons next more =>
        have hmore : ∀ c ∈ blank ++ line.text, Text.isBlank c := by
          intro c hc
          rcases List.mem_append.mp hc with hc | hc
          · exact hblank c hc
          · exact PlainLine.isBlank_of_mem_text hline c hc
        rw [← List.append_assoc]
        exact ih (List.cons_ne_nil next more) hlast hmore

/-! ### Two words -/

/-- The reader takes the first word for a key and is stuck before the second. -/
theorem readBinding_unassigned {key s : Text} {c : CodePoint} (hk : PlainKey key)
    (hx : key ≠ "export") (hc : isKeyChar c) :
    readBinding (key ++ .char ' ' :: c :: s) = .error (c :: s) := by
  have hspace : isKeyChar ' ' = false := by decide
  have hspaceGap : Text.isGap ' ' = true := by decide
  have hblank := not_isBlank_of_isKeyChar hc
  have hgap : Text.isGap c = false := by simp [Text.isGap, hblank]
  have hline := Text.isLineEnd_of_not_isBlank hblank
  have hends : EndsKey key (' ' :: c :: s) := ⟨by simp [hspace], fun he => absurd he hx⟩
  have hdrop : (.char ' ' :: c :: s).dropWhile Text.isGap = c :: s := by simp [hspaceGap, hgap]
  have hvalue : readOptionalValue (c :: s) = .ok (none, c :: s) := by
    unfold readOptionalValue
    split
    · rename_i heq
      cases heq
      cases hc
    · rfl
  have hhash : c ≠ '#' := by
    rintro rfl
    cases hc
  have hskip : skipComment (c :: s) = c :: s := by simp [skipComment, hgap, hhash]
  have hend : readLineEnd? (c :: s) = none := by
    unfold readLineEnd?
    rw [hskip]
    split
    · rename_i heq
      cases heq
    · rename_i heq
      cases heq
      cases hline
    · rename_i heq
      cases heq
      rw [hline, if_neg Bool.false_ne_true]
  simp only [readBinding, skipExport_plain hk hends, readKey?_plain hk hends.stops, hdrop, hvalue,
    hend]

theorem isLineEnd_of_isName {word : Text} (h : isName word) :
    ∀ c ∈ word, Text.isLineEnd c = false := by
  intro c hc
  exact Text.isLineEnd_of_not_isBlank
    (not_isBlank_of_isKeyChar (isKeyChar_of_isNameChar (isNameChar_of_isName h c hc)))

theorem readEntry_twoWords {first second : Text} (hfirst : isName first) (hsecond : isName second)
    (hx : first ≠ "export") (t : Text) :
    readEntry (first ++ .char ' ' :: (second ++ .char '\n' :: t)) = (.malformed, t) := by
  have hk := plainKey_of_isName hfirst
  obtain ⟨c, rest, hcons⟩ := List.exists_cons_of_ne_nil (ne_nil_of_isName hsecond)
  have hc : isKeyChar c := by
    apply isKeyChar_of_isNameChar
    apply isNameChar_of_isName hsecond
    rw [hcons]
    exact List.mem_cons_self
  have hstuck : readBinding (first ++ .char ' ' :: (second ++ .char '\n' :: t))
      = .error (second ++ .char '\n' :: t) := by
    rw [hcons, List.cons_append]
    exact readBinding_unassigned hk hx hc
  have hafter : afterLine (second ++ .char '\n' :: t) = .char '\n' :: t :=
    afterLine_append (isLineEnd_of_isName hsecond) rfl
  have hskip : skipLine (second ++ .char '\n' :: t) = t := by
    rw [skipLine, hafter]
    rfl
  rw [readEntry_key hk, hstuck]
  simp only [hskip]

/-! ### What is reported -/

theorem withoutLineEnd_word {word : Text} (hne : word ≠ [])
    (h : ∀ c ∈ word, Text.isLineEnd c = false) (s : Text) :
    ((s ++ word ++ [CodePoint.char '\n']).reverse.dropWhile Text.isLineEnd).reverse
      = s ++ word := by
  obtain ⟨init, c, rfl⟩ := (List.eq_nil_or_concat word).resolve_left hne
  have hfeed : Text.isLineEnd '\n' = true := by decide
  have hc : Text.isLineEnd c = false := by
    apply h
    simp
  simp [hfeed, hc]

theorem isBlank_of_mem_trailing (lines : List PlainLine) :
    ∀ c ∈ (lines.rtakeWhile PlainLine.isBlank).flatMap PlainLine.text, Text.isBlank c := by
  intro c hc
  obtain ⟨line, hline, hmem⟩ := List.mem_flatMap.mp hc
  exact PlainLine.isBlank_of_mem_text (List.mem_rtakeWhile_imp hline) c hmem

theorem firstFault?_leading (lines : List PlainLine) (t : Text) :
    firstFault? ((lines.rdropWhile PlainLine.isBlank).flatMap PlainLine.text ++ t)
      = firstFault? t := by
  by_cases hne : lines.rdropWhile PlainLine.isBlank = []
  · rw [hne]
    rfl
  · have hlast := List.rdropWhile_last_not PlainLine.isBlank lines hne
    refine firstFault?_plainLines hne ?_ (List.forall_mem_nil _) t
    rw [List.getLast?_eq_some_getLast hne]
    simpa using hlast

/-- What the reader says of two words on a line: it counts and quotes from the first of the blank
lines right before that line. -/
theorem bindings_twoWords {document first second t : Text} {lines : List PlainLine}
    (hdoc : withoutMark document
      = lines.flatMap PlainLine.text ++ (first ++ .char ' ' :: (second ++ .char '\n' :: t)))
    (hfirst : isName first) (hsecond : isName second) (hx : first ≠ "export") :
    bindings document = .error
      ⟨(lines.rdropWhile PlainLine.isBlank).length + 1,
        (lines.rtakeWhile PlainLine.isBlank).flatMap PlainLine.text
          ++ (first ++ .char ' ' :: second)⟩ := by
  have hblank := isBlank_of_mem_trailing lines
  have hsplit : lines.flatMap PlainLine.text
      = (lines.rdropWhile PlainLine.isBlank).flatMap PlainLine.text
        ++ (lines.rtakeWhile PlainLine.isBlank).flatMap PlainLine.text := by
    rw [← List.flatMap_append, List.rdropWhile_append_rtakeWhile]
  have hleading := firstFault?_leading lines
  have hcount := PlainLine.lineEnds_flatMap (lines.rdropWhile PlainLine.isBlank)
  rw [hsplit, List.append_assoc] at hdoc
  generalize (lines.rdropWhile PlainLine.isBlank).flatMap PlainLine.text = leading at *
  generalize (lines.rtakeWhile PlainLine.isBlank).flatMap PlainLine.text = blank at *
  have hbody : blank ++ (first ++ .char ' ' :: (second ++ .char '\n' :: t))
      = (blank ++ (first ++ [CodePoint.char ' ']) ++ second ++ [CodePoint.char '\n']) ++ t := by
    simp
  have hread : readEntry (blank ++ (first ++ .char ' ' :: (second ++ .char '\n' :: t)))
      = (.malformed, t) := by
    rw [readEntry_blank hblank, readEntry_twoWords hfirst hsecond hx]
  have hfault : firstFault? (withoutMark document)
      = some ⟨.malformed, blank ++ (first ++ .char ' ' :: (second ++ .char '\n' :: t)), t⟩ := by
    rw [hdoc, hleading, firstFault?_of_ne_nil (by simp), hread]
    rfl
  rw [bindings_of_firstFault? hfault, hdoc, hbody, malformedLine_eq,
    withoutLineEnd_word (ne_nil_of_isName hsecond) (isLineEnd_of_isName hsecond), hcount]
  simp

theorem getLast?_all_iff {lines : List PlainLine} :
    lines.getLast?.all (!·.isBlank) ↔ lines.rtakeWhile PlainLine.isBlank = [] := by
  rw [List.rtakeWhile_eq_nil_iff]
  by_cases hne : lines = []
  · simp [hne]
  · simp [List.getLast?_eq_some_getLast hne, hne]

/-- No blank line before a line is quoted with it exactly if none stands right before it. -/
theorem reported_eq_iff {lines : List PlainLine} {s : Text} :
    (⟨(lines.rdropWhile PlainLine.isBlank).length + 1,
        (lines.rtakeWhile PlainLine.isBlank).flatMap PlainLine.text ++ s⟩ : MalformedLine)
      = ⟨lines.length + 1, s⟩ ↔ lines.getLast?.all (!·.isBlank) := by
  have hsplit : lines.rdropWhile PlainLine.isBlank ++ lines.rtakeWhile PlainLine.isBlank = lines :=
    List.rdropWhile_append_rtakeWhile
  rw [getLast?_all_iff, MalformedLine.mk.injEq]
  constructor
  · rintro ⟨-, hsource⟩
    have hnil : (lines.rtakeWhile PlainLine.isBlank).flatMap PlainLine.text = [] := by
      simpa using hsource
    rw [List.flatMap_eq_nil_iff] at hnil
    rw [List.eq_nil_iff_forall_not_mem]
    intro line hline
    have htext := hnil line hline
    simp [PlainLine.text] at htext
  · intro hnil
    rw [hnil, List.append_nil] at hsplit
    rw [hnil, hsplit]
    exact ⟨rfl, rfl⟩

end Document

/-! ### Properties files -/

open Document

/-- A properties file with two words on a line, behind lines without fault, is refused for that
line. It names and quotes the line itself exactly if no blank line stands right before it, and
otherwise begins with the first of these blank lines. -/
theorem readProperties_twoWords {read : FileReader} {path document first second t : Text}
    {lines : List PlainLine} (h : read.Holds path document)
    (hdoc : withoutMark document
      = lines.flatMap PlainLine.text ++ (first ++ .char ' ' :: (second ++ .char '\n' :: t)))
    (hfirst : isName first) (hsecond : isName second) (hx : first ≠ "export") :
    ∃ flaw : MalformedLine,
      readProperties read path = .error (.refused (.malformedLine flaw)) ∧
      flaw.line = (lines.rdropWhile PlainLine.isBlank).length + 1 ∧
      flaw.source = (lines.rtakeWhile PlainLine.isBlank).flatMap PlainLine.text
        ++ (first ++ .char ' ' :: second) ∧
      (flaw = ⟨lines.length + 1, first ++ .char ' ' :: second⟩ ↔ lines.getLast?.all (!·.isBlank)) ∧
      (ContentFlaw.malformedLine flaw).raw = flaw.source ∧
      (ContentFlaw.malformedLine flaw).message path
        = "Cannot parse line " ++ Decimal.ofNat flaw.line ++ " of " ++ path ++ ": "
          ++ Text.quoted flaw.source := by
  have hb := bindings_twoWords hdoc hfirst hsecond hx
  refine ⟨_, ?_, rfl, rfl, reported_eq_iff, rfl, rfl⟩
  rw [readProperties_of_text h, hb]

theorem readProperties_twoWords_third :
    let comment : Comment := ⟨"\t", "=# 'note", by decide, by decide⟩
    let assignment : PlainAssignment :=
      ⟨" ", "export", "", "x y # z", by decide, plainKey_of_isName (by decide), by decide,
        by decide, by decide, by decide⟩
    let lines : List PlainLine :=
      [.blank " " (by decide), .comment comment, .blank "" (by decide), .assignment assignment]
    let document : String := " \n\t#=# 'note\n\n export=x y # z\nREPLICA_NUM 3\n'open"
    let read : FileReader := fun _ => .ok (Utf8.ofString document)
    (read.Holds "p" document ∧
      withoutMark document = lines.flatMap PlainLine.text
        ++ (("REPLICA_NUM" : Text) ++ .char ' ' ::
          (("3" : Text) ++ .char '\n' :: ("'open" : Text))) ∧
      isName "REPLICA_NUM" ∧ isName "3" ∧ ("REPLICA_NUM" : Text) ≠ "export") ∧
    readProperties read "p" = .error (.refused (.malformedLine ⟨5, "REPLICA_NUM 3"⟩)) := by
  intro comment assignment lines document read
  have h : read.Holds "p" document := FileReader.holds_ofString rfl
  have hdoc : withoutMark document = lines.flatMap PlainLine.text
      ++ (("REPLICA_NUM" : Text) ++ .char ' ' ::
        (("3" : Text) ++ .char '\n' :: ("'open" : Text))) := by
    decide +kernel
  have hfirst : isName "REPLICA_NUM" := by decide
  have hsecond : isName "3" := by decide
  have hx : ("REPLICA_NUM" : Text) ≠ "export" := by decide
  obtain ⟨flaw, hflaw, -, -, hself, -⟩ := readProperties_twoWords h hdoc hfirst hsecond hx
  have hitself := hself.mpr (by decide)
  rw [hitself] at hflaw
  exact ⟨⟨h, hdoc, hfirst, hsecond, hx⟩, hflaw⟩

/-- Behind a blank line the line is not named and quoted as itself. -/
theorem readProperties_behind_blank :
    let read : FileReader := fun _ => .ok (Utf8.ofString "\nA B\n")
    readProperties read "p" = .error (.refused (.malformedLine ⟨1, "\nA B"⟩)) ∧
      readProperties read "p" ≠ .error (.refused (.malformedLine ⟨2, "A B"⟩)) := by
  intro read
  have hread : readProperties read "p" = .error (.refused (.malformedLine ⟨1, "\nA B"⟩)) := by
    decide +kernel
  refine ⟨hread, ?_⟩
  rw [hread]
  decide

end NodeSettings
