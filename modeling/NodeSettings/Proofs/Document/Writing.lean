import NodeSettings.Proofs.Document.Appending
import NodeSettings.Proofs.Document.Plain

/-!
# Writing a document

Any list of keys and values can be written, one binding after the other, and is read back as it
was: a value between quotes, where a backslash stands before every backslash and every quote, or
bare where nothing in it could be taken for something else.
-/

namespace NodeSettings.Document

/-! ### Quoted values -/

/-- A character as it stands between quotes. -/
def escaped (c : CodePoint) : Text := if c = '\\' ∨ c = '\'' then ['\\', c] else [c]

theorem readQuoted_escaped (value after : Text) :
    readQuoted singleEscape? '\'' (value.flatMap escaped ++ .char '\'' :: after)
      = some (value, after) := by
  induction value with
  | nil => rw [List.flatMap_nil, List.nil_append, readQuoted_cons (by decide), if_pos rfl]
  | cons c rest ih =>
    rw [List.flatMap_cons, List.append_assoc, escaped]
    by_cases hc : c = '\\' ∨ c = '\''
    · have hdecode : decodePair singleEscape? c = [c] := by
        rcases hc with rfl | rfl <;> rfl
      rw [if_pos hc, List.cons_append, List.cons_append, List.nil_append, readQuoted, ih]
      simp only [hdecode, List.cons_append, List.nil_append]
    · rw [not_or] at hc
      rw [if_neg (not_or.mpr hc), List.cons_append, List.nil_append, readQuoted_cons hc.1,
        if_neg hc.2, ih]
      rfl

theorem readOptionalValue_quoted (value after : Text) :
    readOptionalValue (.char '=' :: .char '\'' :: (value.flatMap escaped ++ .char '\'' :: after))
      = .ok (some value, after) := by
  have hgap : Text.isGap '\'' = false := by decide
  simp only [readOptionalValue, readAssigned, List.dropWhile_cons, hgap, Bool.false_eq_true,
    if_false, List.head?_cons, Option.any_some, Bool.false_and, readValue?,
    readQuoted_escaped value after]

/-! ### Bare values -/

/-- Whether a blank character is followed by a number sign, which would begin a comment. -/
def isMark (pair : CodePoint × CodePoint) : Bool := Text.isBlank pair.1 && pair.2 = '#'

/-- Whether a value may be written without quotes: it stands on one line, begins with no quote, has
no blank characters at its ends and nothing in it begins a comment. -/
def isBare (value : Text) : Bool :=
  value.all (!Text.isLineEnd ·)
    && value.head?.all (fun c => !Text.isBlank c && c ≠ '\'' && c ≠ '"')
    && value.getLast?.all (!Text.isBlank ·)
    && (value.zip value.tail).all (!isMark ·)

theorem beforeComment_of_unmarked {value : Text} {afterBlank : Bool}
    (hfirst : afterBlank = true → value.head? ≠ some (.char '#'))
    (h : ∀ pair ∈ value.zip value.tail, isMark pair = false) :
    beforeComment afterBlank value = value := by
  induction value generalizing afterBlank with
  | nil => rfl
  | cons c rest ih =>
    have hc : (c = '#' && afterBlank) = false := by
      cases afterBlank with
      | false => simp
      | true => simpa using hfirst rfl
    have hnext : Text.isBlank c = true → rest.head? ≠ some (.char '#') := by
      intro hb hhead
      obtain ⟨after, rfl⟩ := List.head?_eq_some_iff.mp hhead
      have hmark := h (c, '#') List.mem_cons_self
      simp [isMark, hb] at hmark
    have hrest : ∀ pair ∈ rest.zip rest.tail, isMark pair = false := by
      intro pair hm
      cases rest with
      | nil => cases hm
      | cons d after => exact h pair (List.mem_cons_of_mem (c, d) hm)
    rw [beforeComment, hc, if_neg Bool.false_ne_true, ih hnext hrest]

theorem plainValue_of_isBare {value : Text} (h : isBare value) : PlainValue value := by
  simp only [isBare, Bool.and_eq_true, List.all_eq_true, Bool.not_eq_true'] at h
  obtain ⟨⟨⟨hline, hfirst⟩, hlast⟩, hmark⟩ := h
  refine ⟨hline, ?_, ?_, ?_, Text.trimEnd_of_getLast? hlast,
    beforeComment_of_unmarked (by simp) hmark⟩
  · intro hhead
    simp [hhead] at hfirst
  · intro hhead
    simp [hhead] at hfirst
  · cases value with
    | nil => rfl
    | cons c rest =>
      simp only [List.head?_cons, Option.all_some, Bool.and_eq_true, Bool.not_eq_true'] at hfirst
      exact hfirst.1.1

/-! ### Names -/

/-- A letter or digit of the basic range, or a low line. -/
def isNameChar (c : CodePoint) : Bool :=
  Text.isDigit c || Text.isCapital c || ('a' ≤ c && c ≤ 'z') || c = '_'

def isName (s : Text) : Bool := !s.isEmpty && s.all isNameChar

theorem toNat_of_isNameChar {c : CodePoint} (h : isNameChar c) :
    48 ≤ c.toNat ∧ c.toNat ≤ 122 ∧ c.toNat ≠ 61 := by
  simp only [isNameChar, Text.isDigit, Text.isCapital, Bool.or_eq_true, Bool.and_eq_true,
    decide_eq_true_eq, CodePoint.le_def] at h
  rcases h with ((⟨hl, hh⟩ | ⟨hl, hh⟩) | ⟨hl, hh⟩) | rfl
  · have hlow : 48 ≤ c.toNat := hl
    have hhigh : c.toNat ≤ 57 := hh
    omega
  · have hlow : 65 ≤ c.toNat := hl
    have hhigh : c.toNat ≤ 90 := hh
    omega
  · have hlow : 97 ≤ c.toNat := hl
    have hhigh : c.toNat ≤ 122 := hh
    omega
  · decide

theorem isKeyChar_of_isNameChar {c : CodePoint} (h : isNameChar c) : isKeyChar c := by
  obtain ⟨hlow, hhigh, hsign⟩ := toNat_of_isNameChar h
  have hblank := Text.isBlank_of_visible (c := c) (by omega) (by omega)
  have hequals : c ≠ '=' := by
    rintro rfl
    exact hsign rfl
  have hhash : c ≠ '#' := by
    rintro rfl
    exact absurd hlow (by decide)
  simp [isKeyChar, hblank, hequals, hhash]

theorem isNameChar_of_isName {key : Text} (h : isName key) : ∀ c ∈ key, isNameChar c := by
  simp only [isName, Bool.and_eq_true, List.all_eq_true] at h
  exact h.2

theorem ne_nil_of_isName {key : Text} (h : isName key) : key ≠ [] := by
  rintro rfl
  cases h

theorem head?_ne_of_isName {key : Text} {c : CodePoint} (h : isName key)
    (hc : isNameChar c = false) :
    key.head? ≠ some c := by
  intro hhead
  rw [isNameChar_of_isName h c (List.mem_of_mem_head? hhead)] at hc
  cases hc

theorem plainKey_of_isName {key : Text} (h : isName key) : PlainKey key where
  ne_nil := ne_nil_of_isName h
  chars c hc := isKeyChar_of_isNameChar (isNameChar_of_isName h c hc)
  head := head?_ne_of_isName h (by decide)

/-! ### Lines -/

inductive Style where
  | quoted
  | bare
  deriving DecidableEq, Repr

def Style.write (value : Text) : Style → Text
  | .quoted => .char '\'' :: (value.flatMap escaped ++ [.char '\''])
  | .bare => value

/-- A key and a value with the style in which the value is written. -/
structure Line where
  key : Text
  value : Text
  style : Style
  key_isName : isName key
  value_isBare : style = .bare → isBare value

namespace Line

def text (line : Line) : Text :=
  line.key ++ .char '=' :: (line.style.write line.value ++ [.char '\n'])

def binding (line : Line) : Text × Text := (line.key, line.value)

theorem readOptionalValue_write (line : Line) :
    readOptionalValue (.char '=' :: (line.style.write line.value ++ [.char '\n']))
      = .ok (some line.value, ['\n']) := by
  cases hs : line.style with
  | quoted =>
    have hread := readOptionalValue_quoted line.value ['\n']
    rw [Style.write, List.cons_append, List.append_assoc]
    exact hread
  | bare => exact readOptionalValue_plain (plainValue_of_isBare (line.value_isBare hs)) rfl

theorem bindings_text (line : Line) : bindings line.text = .ok [line.binding] := by
  have hk := plainKey_of_isName line.key_isName
  have hmark := head?_ne_of_isName (c := '\uFEFF') line.key_isName (by decide)
  have hentry : readEntry line.text = (.binding (line.key, some line.value), []) :=
    readEntry_assigned hk line.readOptionalValue_write rfl
  exact bindings_assigned hk hmark hentry

theorem endsLine_text (line : Line) : EndsLine line.text := by
  have hcut : line.text = line.key ++ .char '=' :: line.style.write line.value ++ [.char '\n'] := by
    rw [text, List.append_assoc, List.cons_append]
  rw [hcut, EndsLine, List.getLast?_concat]

theorem head?_text_ne (line : Line) : line.text.head? ≠ some (.char '\uFEFF') := by
  have hmark := head?_ne_of_isName (c := '\uFEFF') line.key_isName (by decide)
  have hkey := ne_nil_of_isName line.key_isName
  rw [text]
  cases hk : line.key with
  | nil => exact absurd hk hkey
  | cons c rest =>
    rw [hk] at hmark
    exact hmark

theorem bindings_lines (lines : List Line) :
    bindings (lines.flatMap text) = .ok (lines.map binding) := by
  induction lines with
  | nil => exact bindings_eq_ok_iff.mpr (by simp [withoutMark, significant_nil])
  | cons line rest ih =>
    have hmark : (rest.flatMap text).head? ≠ some (.char '\uFEFF') := by
      cases rest with
      | nil => simp
      | cons next more =>
        obtain ⟨c, tail, hcons⟩ := next.endsLine_text.exists_cons
        have hnext := next.head?_text_ne
        rw [hcons] at hnext
        rw [List.flatMap_cons, hcons]
        exact hnext
    rw [List.flatMap_cons, List.map_cons]
    exact (bindings_append (.inr line.endsLine_text) hmark line.bindings_text).mpr
      ⟨rest.map binding, ih, rfl⟩

theorem get?_bindings (lines : List Line) (key : Text) :
    Bindings.get? (lines.map binding) key
      = ((lines.filter (·.key = key)).getLast?).map Line.value := by
  induction lines with
  | nil => rfl
  | cons line rest ih =>
    have hcons : Bindings.get? ((line :: rest).map binding) key
        = (Bindings.get? (rest.map binding) key).or
            (if line.key = key then some line.value else none) := rfl
    rw [hcons, ih, List.filter_cons]
    by_cases hk : line.key = key
    · rw [if_pos hk, if_pos (decide_eq_true hk), List.getLast?_cons]
      cases (rest.filter (·.key = key)).getLast? <;> rfl
    · rw [if_neg hk, if_neg (by simpa using hk), Option.or_none]

end Line

end NodeSettings.Document

/-! ### Properties files -/

namespace NodeSettings
open Document

/-- A properties file that is written line by line is read as the bindings that were written, and
of the lines of one key the last one counts. -/
theorem readProperties_written {read : FileReader} {path : Text} {lines : List Line}
    (h : read.Holds path (lines.flatMap Line.text)) :
    readProperties read path = .ok (lines.map Line.binding) ∧
      ∀ key, Bindings.get? (lines.map Line.binding) key
        = ((lines.filter (·.key = key)).getLast?).map Line.value := by
  refine ⟨?_, Line.get?_bindings lines⟩
  rw [readProperties_of_text h, Line.bindings_lines]

theorem readProperties_written_repeated :
    let lines : List Line :=
      [⟨"A", "b=1\n#\\'$\x7bC\x7d ", .quoted, by decide, by decide⟩,
        ⟨"export", "x=y # z", .quoted, by decide, by decide⟩,
        ⟨"_", "x=y z#", .bare, by decide, by decide⟩,
        ⟨"A", "\\", .quoted, by decide, by decide⟩]
    let octets := Utf8.ofString
      "A='b=1\n#\\\\\\'$\x7bC\x7d '\nexport='x=y # z'\n_=x=y z#\nA='\\\\'\n"
    let read : FileReader := fun _ => .ok octets
    read.Holds "p" (lines.flatMap Line.text) ∧
      readProperties read "p" = .ok (lines.map Line.binding) ∧
      ∀ key, Bindings.get? (lines.map Line.binding) key
        = ((lines.filter (·.key = key)).getLast?).map Line.value := by
  intro lines octets read
  have h : read.Holds "p" (lines.flatMap Line.text) := ⟨octets, rfl, by decide +kernel⟩
  exact ⟨h, readProperties_written h⟩

end NodeSettings
