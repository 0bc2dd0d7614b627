import NodeSettings.Log.Highlight
import NodeSettings.Notice
import NodeSettings.Proofs.Text.Cut
import Mathlib.Data.List.Basic

/-!
# The seeds that stand out in a log line

In a line that ends with a list of seeds the seed spans are the places of the seeds, one for each,
in order: the scan finds nothing before the opening quote of a seed, matches from there up to the
closing quote, and finds nothing in the marks between two seeds. That needs no more of the text
before the list than that it holds no colon.
-/

namespace NodeSettings

/-! ### Characters of seeds -/

namespace Text

theorem toNat_of_isAlphanum {c : CodePoint} (h : c.isAlphanum) :
    48 ≤ c.toNat ∧ c.toNat ≤ 57 ∨ 65 ≤ c.toNat ∧ c.toNat ≤ 90 ∨ 97 ≤ c.toNat ∧ c.toNat ≤ 122 := by
  cases c with
  | half unit => cases h
  | char c =>
    have hranges : ((decide (c.val ≥ 'A'.val ∧ c.val ≤ 'Z'.val)
        || decide (c.val ≥ 'a'.val) && decide (c.val ≤ 'z'.val))
        || decide (c.val ≥ '0'.val) && decide (c.val ≤ '9'.val)) = true := h
    simp only [Bool.or_eq_true, Bool.and_eq_true, decide_eq_true_eq, ge_iff_le,
      UInt32.le_iff_toNat_le] at hranges
    change ((65 ≤ c.toNat ∧ c.toNat ≤ 90) ∨ (97 ≤ c.toNat ∧ c.toNat ≤ 122)) ∨
      (48 ≤ c.toNat ∧ c.toNat ≤ 57) at hranges
    rw [CodePoint.toNat_char]
    omega

theorem isWord_of_isAlphanum {c : CodePoint} (h : c.isAlphanum) : isWord c := by
  have hsmall : c.toNat < 0x80 := by
    have hcode := toNat_of_isAlphanum h
    omega
  rw [isWord, if_pos hsmall, h]
  rfl

theorem isDecimalDigit_of_isDigit {c : CodePoint} (h : isDigit c) : isDecimalDigit c := by
  have hsmall : c.toNat < 0x80 := by
    have hcode := toNat_of_isDigit h
    omega
  rwa [isDecimalDigit, if_pos hsmall]

theorem isAlphanum_of_isDigit {c : CodePoint} (h : isDigit c) : c.isAlphanum := by
  have hcode := toNat_of_isDigit h
  cases c with
  | half unit =>
    rw [CodePoint.toNat_half] at hcode
    omega
  | char c =>
    have hdigit : c.isDigit := by
      simpa [isDigit, CodePoint.le_def, Char.isDigit, UInt32.le_iff_toNat_le] using h
    rw [CodePoint.isAlphanum, Char.isAlphanum, hdigit, Bool.or_true]

/-- A text of visible characters that need no escape stands between single quotes as it is. -/
theorem quoted_of_visible {s : Text}
    (h : ∀ c ∈ s, 0x20 ≤ c.toNat ∧ c.toNat < 0x7F ∧ c ≠ '\'' ∧ c ≠ '\\') :
    quoted s = .char '\'' :: (s ++ [.char '\'']) := by
  have hquote : quoteFor s = '\'' := by
    have hno : s.contains '\'' = false := by
      rw [List.contains_eq_mem, decide_eq_false_iff_not]
      intro hm
      exact (h '\'' hm).2.2.1 rfl
    simp only [quoteFor, hno, Bool.false_and, Bool.false_eq_true, if_false]
  have hescape : ∀ c ∈ s, escape isPrintable '\'' c = [c] := by
    intro c hc
    obtain ⟨hlow, hhigh, hne, hne'⟩ := h c hc
    have htab : c ≠ '\t' := by rintro rfl; exact absurd hlow (by decide)
    have hfeed : c ≠ '\n' := by rintro rfl; exact absurd hlow (by decide)
    have hreturn : c ≠ '\r' := by rintro rfl; exact absurd hlow (by decide)
    have hprint : isPrintable c = true := by
      rw [isPrintable, if_pos hhigh]
      exact decide_eq_true hlow
    simp [escape, hne, hne', htab, hfeed, hreturn, hprint]
  simp only [quoted, quotedBy, hquote, List.cons_append]
  rw [List.flatMap_congr hescape, List.flatMap_singleton']

end Text

namespace Log

/-! ### Seeds with plain hosts -/

/-- A letter or digit of the basic range, a point or a hyphen. -/
def isPlainHostChar (c : CodePoint) : Bool := c.isAlphanum || c = '.' || c = '-'

/-- A seed whose host is a row of letters, digits, points and hyphens that begins with one of the
first two, and whose ports have up to five digits. -/
structure PlainSeed where
  host : Text
  metaPort : Text
  dataPort : Text
  hostStart : host.head?.any CodePoint.isAlphanum
  hostChars : host.all isPlainHostChar
  metaDigits : Text.isDigits metaPort
  metaLength : metaPort.length ≤ 5
  dataDigits : Text.isDigits dataPort
  dataLength : dataPort.length ≤ 5

namespace PlainSeed

def text (seed : PlainSeed) : Text :=
  seed.host ++ .char ':' :: (seed.metaPort ++ .char ':' :: seed.dataPort)

theorem ne_nil (seed : PlainSeed) : seed.text ≠ [] := by simp [text]

theorem exists_host_eq (seed : PlainSeed) : ∃ c rest, seed.host = c :: rest ∧ c.isAlphanum := by
  have hstart := seed.hostStart
  cases hh : seed.host with
  | nil => simp [hh] at hstart
  | cons c rest => exact ⟨c, rest, rfl, by simpa [hh] using hstart⟩

theorem mem_host {seed : PlainSeed} {c : CodePoint} (h : c ∈ seed.host) :
    c.isAlphanum ∨ c = '.' ∨ c = '-' := by
  have hc := List.all_eq_true.mp seed.hostChars c h
  simpa only [isPlainHostChar, Bool.or_eq_true, decide_eq_true_eq, or_assoc] using hc

theorem mem_text {seed : PlainSeed} {c : CodePoint} (h : c ∈ seed.text) :
    c.isAlphanum ∨ c = '.' ∨ c = '-' ∨ c = ':' := by
  simp only [text, List.mem_append, List.mem_cons] at h
  rcases h with hc | rfl | hc | rfl | hc
  · rcases mem_host hc with h | h | h
    · exact .inl h
    · exact .inr (.inl h)
    · exact .inr (.inr (.inl h))
  · exact .inr (.inr (.inr rfl))
  · exact .inl (Text.isAlphanum_of_isDigit (Text.isDigit_of_mem seed.metaDigits hc))
  · exact .inr (.inr (.inr rfl))
  · exact .inl (Text.isAlphanum_of_isDigit (Text.isDigit_of_mem seed.dataDigits hc))

theorem visible_of_mem {seed : PlainSeed} {c : CodePoint} (h : c ∈ seed.text) :
    0x20 ≤ c.toNat ∧ c.toNat < 0x7F ∧ c ≠ '\'' ∧ c ≠ '\\' := by
  rcases mem_text h with halnum | rfl | rfl | rfl
  · have hcode := Text.toNat_of_isAlphanum halnum
    refine ⟨by omega, by omega, ?_, ?_⟩
    · rintro rfl
      exact absurd halnum (by decide)
    · rintro rfl
      exact absurd halnum (by decide)
  · decide
  · decide
  · decide

theorem quoted_text (seed : PlainSeed) :
    Text.quoted seed.text = .char '\'' :: (seed.text ++ [.char '\'']) :=
  Text.quoted_of_visible fun _ => visible_of_mem

theorem isHostChar_of_mem {seed : PlainSeed} {c : CodePoint} (h : c ∈ seed.host) :
    isHostChar c := by
  rcases mem_host h with halnum | rfl | rfl
  · simp [isHostChar, Text.isWord_of_isAlphanum halnum]
  · decide
  · decide

end PlainSeed

/-! ### Finding from a place on -/

/-- Behind a match the scan goes on at its end. -/
theorem findFrom_skip (rule : Rule) (s rest : Text) (offset : Nat) (before : Option CodePoint) :
    ∃ last, findFrom rule s.length offset before (s ++ rest)
      = findFrom rule 0 (offset + s.length) last rest := by
  induction s generalizing offset before with
  | nil => exact ⟨before, rfl⟩
  | cons c s ih =>
    obtain ⟨last, hrest⟩ := ih (offset + 1) (some c)
    refine ⟨last, ?_⟩
    rw [List.length_cons, List.cons_append, findFrom, hrest]
    congr 1
    omega

theorem findFrom_of_match {rule : Rule} {before : Option CodePoint} {s rest : Text} (hne : s ≠ [])
    (h : rule before (s ++ rest) = some s.length) (offset : Nat) :
    ∃ last, findFrom rule 0 offset before (s ++ rest)
      = (offset, offset + s.length) :: findFrom rule 0 (offset + s.length) last rest := by
  cases s with
  | nil => exact absurd rfl hne
  | cons c s =>
    obtain ⟨last, hrest⟩ := findFrom_skip rule s rest (offset + 1) (some c)
    refine ⟨last, ?_⟩
    rw [List.cons_append] at h ⊢
    rw [findFrom, h]
    simp only [List.length_cons, Nat.add_sub_cancel, hrest]
    congr 2
    omega

theorem exists_dropWhile_append {p : CodePoint → Bool} {c : CodePoint} (hc : p c = false)
    (s rest : Text) :
    ∃ d tail, (s ++ c :: rest).dropWhile p = d :: tail ∧ (d ∈ s ∨ d = c) := by
  induction s with
  | nil => exact ⟨c, rest, by simp [hc], .inr rfl⟩
  | cons e s ih =>
    by_cases he : p e = true
    · obtain ⟨d, tail, hd, hm⟩ := ih
      refine ⟨d, tail, by rw [List.cons_append, List.dropWhile_cons_of_pos he, hd], ?_⟩
      exact hm.imp_left (List.mem_cons_of_mem e)
    · exact ⟨e, s ++ c :: rest, List.dropWhile_cons_of_neg he, .inl List.mem_cons_self⟩

theorem drop_length_takeWhile (p : CodePoint → Bool) (s : Text) :
    s.drop (s.takeWhile p).length = s.dropWhile p := by
  induction s with
  | nil => rfl
  | cons c s ih => by_cases hc : p c = true <;> simp [hc, ih]

/-- No seed begins in front of a character that is part of no host, with no colon before it. -/
theorem seedRule_none {s : Text} {mark : CodePoint} (hs : .char ':' ∉ s)
    (hhost : isHostChar mark = false) (hmark : mark ≠ ':') (before : Option CodePoint)
    (rest : Text) :
    seedRule before (s ++ mark :: rest) = none := by
  obtain ⟨d, tail, hdrop, hd⟩ := exists_dropWhile_append hhost s rest
  have hcolon : d ≠ ':' := by
    rintro rfl
    rcases hd with hd | hd
    · exact hs hd
    · exact hmark hd.symm
  simp only [seedRule, drop_length_takeWhile, hdrop]
  split
  · rfl
  · split
    · rename_i he
      rw [List.cons.injEq] at he
      exact absurd he.1 hcolon
    · rfl

/-- The scan passes over such a character and all before it. -/
theorem findFrom_seedRule_mark (s : Text) (mark : CodePoint) (hs : .char ':' ∉ s)
    (hhost : isHostChar mark = false) (hmark : mark ≠ ':') (offset : Nat)
    (before : Option CodePoint) (rest : Text) :
    findFrom seedRule 0 offset before (s ++ mark :: rest)
      = findFrom seedRule 0 (offset + s.length + 1) (some mark) rest := by
  have hnone := seedRule_none hs hhost hmark before rest
  induction s generalizing offset before with
  | nil =>
    rw [List.nil_append] at hnone ⊢
    rw [findFrom, hnone]
    rfl
  | cons c s ih =>
    rw [List.mem_cons, not_or] at hs
    rw [List.cons_append] at hnone ⊢
    have hrest := ih hs.2 (offset + 1) (some c) (seedRule_none hs.2 hhost hmark (some c) rest)
    rw [findFrom, hnone]
    simp only [hrest, List.length_cons]
    congr 1
    omega

/-! ### One seed -/

theorem digitRow?_digits {most : Nat} {digits : Text} (h : Text.isDigits digits)
    (hlength : digits.length ≤ most) (mark : CodePoint) (hmark : Text.isDecimalDigit mark = false)
    (rest : Text) :
    digitRow? most (digits ++ mark :: rest) = some (digits.length, mark :: rest) := by
  have hall : ∀ c ∈ digits, Text.isDecimalDigit c :=
    fun c hc => Text.isDecimalDigit_of_isDigit (Text.isDigit_of_mem h hc)
  have htake : (digits ++ mark :: rest).takeWhile Text.isDecimalDigit = digits := by
    rw [List.takeWhile_append_of_pos hall, List.takeWhile_cons_of_neg (by simp [hmark]),
      List.append_nil]
  have hpos : 1 ≤ digits.length := by
    cases digits with
    | nil => simp [Text.isDigits] at h
    | cons c digits => exact Nat.succ_pos _
  simp [digitRow?, htake, hpos, hlength]

/-- Between the opening quote and a seed a word begins. -/
theorem PlainSeed.isBoundary_text (seed : PlainSeed) (rest : Text) :
    isBoundary (some '\'') (seed.text ++ rest).head? = true := by
  obtain ⟨c, host, heq, hc⟩ := seed.exists_host_eq
  have hword := Text.isWord_of_isAlphanum hc
  have hquote : Text.isWord '\'' = false := by decide
  simp [PlainSeed.text, heq, isBoundary, hword, hquote]

theorem seedRule_text (seed : PlainSeed) (rest : Text) :
    seedRule (some '\'') (seed.text ++ .char '\'' :: rest) = some seed.text.length := by
  have hsplit : seed.text ++ .char '\'' :: rest
      = seed.host ++ .char ':' ::
        (seed.metaPort ++ .char ':' :: (seed.dataPort ++ .char '\'' :: rest)) := by
    simp [PlainSeed.text]
  have hhost : (seed.text ++ .char '\'' :: rest).takeWhile isHostChar = seed.host := by
    rw [hsplit, List.takeWhile_append_of_pos fun c hc => PlainSeed.isHostChar_of_mem hc,
      List.takeWhile_cons_of_neg (by decide), List.append_nil]
  have hports : (seed.text ++ .char '\'' :: rest).drop seed.host.length
      = .char ':' :: (seed.metaPort ++ .char ':' :: (seed.dataPort ++ .char '\'' :: rest)) := by
    rw [hsplit, List.drop_left]
  have hmeta := digitRow?_digits seed.metaDigits seed.metaLength ':' (by decide)
    (seed.dataPort ++ .char '\'' :: rest)
  have hdata := digitRow?_digits seed.dataDigits seed.dataLength '\'' (by decide) rest
  have hne : seed.host.isEmpty = false := by
    obtain ⟨c, host, heq, -⟩ := seed.exists_host_eq
    rw [heq]
    rfl
  have hends : wordEnds ('\'' :: rest) = true := by
    have hquote : Text.isWord '\'' = false := by decide
    simp [wordEnds, hquote]
  have hlength : seed.text.length
      = seed.host.length + seed.metaPort.length + seed.dataPort.length + 2 := by
    simp only [PlainSeed.text, List.length_append, List.length_cons]
    omega
  simp only [seedRule, hhost, hne, seed.isBoundary_text, hports, hmeta, hdata, hends, Bool.not_true,
    Bool.or_self, Bool.false_eq_true, if_false, if_true, hlength]

/-! ### Lists of seeds -/

/-- The places of items in a shown list, the first of which begins at `offset`: two quotes, a comma
and a blank stand between each two. -/
def places : Nat → List Text → List (Nat × Nat)
  | _, [] => []
  | offset, item :: rest => (offset, offset + item.length) :: places (offset + item.length + 4) rest

/-- In quotes a seed is found whole, and nothing up to a mark behind the closing quote. -/
theorem findFrom_item (seed : PlainSeed) (between : Text) (mark : CodePoint)
    (hbetween : .char ':' ∉ between) (hhost : isHostChar mark = false) (hmark : mark ≠ ':')
    (offset : Nat) (before : Option CodePoint) (rest : Text) :
    findFrom seedRule 0 offset before
        (.char '\'' :: (seed.text ++ .char '\'' :: (between ++ mark :: rest)))
      = (offset + 1, offset + 1 + seed.text.length)
        :: findFrom seedRule 0 (offset + seed.text.length + between.length + 3) (some mark)
          rest := by
  have hopen := findFrom_seedRule_mark [] '\'' (by simp) (by decide) (by decide) offset before
    (seed.text ++ .char '\'' :: (between ++ mark :: rest))
  obtain ⟨last, hseed⟩ := findFrom_of_match seed.ne_nil
    (seedRule_text seed (between ++ mark :: rest)) (offset + 1)
  have hclose := findFrom_seedRule_mark ('\'' :: between) mark (by simp [hbetween]) hhost hmark
    (offset + 1 + seed.text.length) last rest
  rw [List.nil_append] at hopen
  rw [List.cons_append] at hclose
  rw [hopen, List.length_nil, Nat.add_zero, hseed, hclose, List.length_cons]
  congr 2
  omega

theorem comma_eq : (", " : Text) = [.char ',', .char ' '] := rfl

theorem findFrom_items (seed : PlainSeed) (seeds : List PlainSeed) (offset : Nat)
    (before : Option CodePoint) :
    findFrom seedRule 0 offset before
        (List.intercalate (", " : Text) ((seed :: seeds).map fun s => Text.quoted s.text)
          ++ [.char ']'])
      = places (offset + 1) ((seed :: seeds).map PlainSeed.text) := by
  -- on the seeds behind the first
  induction seeds generalizing seed offset before with
  | nil =>
    have hitem := findFrom_item seed [] ']' (by simp) (by decide) (by decide) offset before []
    have hline : List.intercalate (", " : Text) ([seed].map fun s => Text.quoted s.text)
          ++ [.char ']']
        = .char '\'' :: (seed.text ++ .char '\'' :: ([] ++ .char ']' :: [])) := by
      simp [PlainSeed.quoted_text]
    rw [hline, hitem]
    rfl
  | cons next seeds ih =>
    have hitem := findFrom_item seed [','] ' ' (by decide) (by decide) (by decide) offset before
      (List.intercalate (", " : Text) ((next :: seeds).map fun s => Text.quoted s.text)
        ++ [.char ']'])
    have hline : List.intercalate (", " : Text)
          ((seed :: next :: seeds).map fun s => Text.quoted s.text) ++ [.char ']']
        = .char '\'' :: (seed.text ++ .char '\'' :: ([.char ','] ++ .char ' ' ::
          (List.intercalate (", " : Text) ((next :: seeds).map fun s => Text.quoted s.text)
            ++ [.char ']']))) := by
      simp [PlainSeed.quoted_text, comma_eq]
    have hnext : offset + seed.text.length + [CodePoint.char ','].length + 3 + 1
        = offset + 1 + seed.text.length + 4 := by
      rw [List.length_singleton]
      omega
    rw [hline, hitem, ih, hnext]
    rfl

/-- Behind text without a colon the places of the seeds in a list are all that is found. -/
theorem findAll_quotedList {before : Text} (h : .char ':' ∉ before) (seeds : List PlainSeed) :
    findAll seedRule (before ++ Text.quotedList (seeds.map PlainSeed.text))
      = places (before.length + 2) (seeds.map PlainSeed.text) := by
  have hline : before ++ Text.quotedList (seeds.map PlainSeed.text)
      = before ++ .char '[' ::
        (List.intercalate (", " : Text) (seeds.map fun s => Text.quoted s.text)
          ++ [.char ']']) := by
    simp [Text.quotedList, Text.bracketed, Function.comp_def]
  rw [findAll, hline, findFrom_seedRule_mark before '[' h (by decide) (by decide), Nat.zero_add]
  cases seeds with
  | nil => exact findFrom_seedRule_mark [] ']' (by simp) (by decide) (by decide) _ _ []
  | cons seed seeds => exact findFrom_items seed seeds (before.length + 1) (some '[')

/-! ### Shown lines -/

/-- The text that a span covers in a line. -/
def Span.textIn (span : Span) (line : Text) : Text :=
  (line.drop span.start).take (span.stop - span.start)

/-- The spans of seeds in a line as it is shown. -/
def seedSpans (line : Text) : List Span := (spans (shownText line)).filter (·.style = .seed)

/-- The seed spans of a line are those of the items of a shown list, the first of which begins at
`offset`, and cover these items. -/
structure StandOut (line : Text) (offset : Nat) (items : List Text) : Prop where
  places : seedSpans line = (places offset items).map fun p => ⟨p.1, p.2, .seed⟩
  texts : (seedSpans line).map (·.textIn (shownText line)) = items

theorem seedSpans_eq (line : Text) :
    seedSpans line = (findAll seedRule (shownText line)).map fun p => ⟨p.1, p.2, .seed⟩ := by
  simp [seedSpans, spans, matchesOf, List.filter_map, Function.comp_def]

theorem isCursorControl_of_le {c : CodePoint} (h : 0x20 ≤ c.toNat) : isCursorControl c = false := by
  cases hc : isCursorControl c with
  | false => rfl
  | true =>
    simp only [isCursorControl, Bool.or_eq_true, decide_eq_true_eq] at hc
    rcases hc with (((rfl | rfl) | rfl) | rfl) | rfl <;> exact absurd h (by decide)

theorem shownText_append_quotedList (before : Text) (seeds : List PlainSeed) :
    shownText (before ++ Text.quotedList (seeds.map PlainSeed.text))
      = shownText before ++ Text.quotedList (seeds.map PlainSeed.text) := by
  have hquoted : ∀ item ∈ (seeds.map PlainSeed.text).map Text.quoted,
      ∀ c ∈ item, 0x20 ≤ c.toNat := by
    intro item hitem c hc
    simp only [List.mem_map, exists_exists_and_eq_and] at hitem
    obtain ⟨seed, -, rfl⟩ := hitem
    simp only [seed.quoted_text, List.mem_cons, List.mem_append, List.not_mem_nil, or_false] at hc
    rcases hc with rfl | hc | rfl
    · decide
    · exact (PlainSeed.visible_of_mem hc).1
    · decide
  have hmark : ∀ c ∈ (", " : Text), 0x20 ≤ c.toNat := by simp [comma_eq]
  have hlist : ∀ c ∈ Text.quotedList (seeds.map PlainSeed.text), (!isCursorControl c) = true := by
    intro c hc
    rw [Bool.not_eq_true']
    apply isCursorControl_of_le
    simp only [Text.quotedList, Text.bracketed, List.cons_append, List.mem_cons, List.mem_append,
      List.not_mem_nil, or_false] at hc
    rcases hc with rfl | hc | rfl
    · decide
    · exact Text.forall_mem_intercalate hmark hquoted c hc
    · decide
  rw [shownText, List.filter_append, List.filter_eq_self.mpr hlist]
  rfl

theorem textIn_of_eq {line front item back : Text} {offset : Nat}
    (h : line = front ++ (item ++ back)) (hoffset : front.length = offset) :
    Span.textIn ⟨offset, offset + item.length, .seed⟩ line = item := by
  rw [Span.textIn, h, ← hoffset, Nat.add_sub_cancel_left, List.drop_left, List.take_left]

def inQuotes (item : Text) : Text := .char '\'' :: (item ++ [.char '\''])

/-- The places of items in quotes are where these items stand. -/
theorem textIn_places (items : List Text) (front back : Text) :
    (places (front.length + 1) items).map (fun p => Span.textIn ⟨p.1, p.2, .seed⟩
        (front ++ (List.intercalate (", " : Text) (items.map inQuotes) ++ back)))
      = items := by
  -- on the items: what was passed counts to the front
  induction items generalizing front with
  | nil => rfl
  | cons item items ih =>
    have hlength : (front ++ [CodePoint.char '\'']).length = front.length + 1 := List.length_append
    cases items with
    | nil =>
      have hline : front ++ (List.intercalate (", " : Text) ([item].map inQuotes) ++ back)
          = (front ++ [.char '\'']) ++ (item ++ .char '\'' :: back) := by
        simp [inQuotes]
      rw [places, places, List.map_singleton, textIn_of_eq hline hlength]
    | cons next items =>
      have hline : front
            ++ (List.intercalate (", " : Text) ((item :: next :: items).map inQuotes) ++ back)
          = (front ++ [.char '\'']) ++ (item ++ (.char '\'' :: (", " : Text)
            ++ (List.intercalate (", " : Text) ((next :: items).map inQuotes) ++ back))) := by
        simp [inQuotes]
      have hpassed :
          (front ++ [CodePoint.char '\''] ++ item ++ .char '\'' :: (", " : Text)).length + 1
            = front.length + 1 + item.length + 4 := by
        simp only [List.length_append, List.length_cons, List.length_nil]
        rfl
      have hrest := ih (front ++ [.char '\''] ++ item ++ .char '\'' :: (", " : Text))
      rw [hpassed, List.append_assoc, List.append_assoc] at hrest
      rw [places, List.map_cons, textIn_of_eq hline hlength, hline, hrest]

theorem standOut_append (before : Text) (h : .char ':' ∉ before) (seeds : List PlainSeed) :
    StandOut (before ++ Text.quotedList (seeds.map PlainSeed.text)) ((shownText before).length + 2)
      (seeds.map PlainSeed.text) := by
  have hshown : .char ':' ∉ shownText before := fun hm => h (List.mem_of_mem_filter hm)
  have hspans : seedSpans (before ++ Text.quotedList (seeds.map PlainSeed.text))
      = (places ((shownText before).length + 2) (seeds.map PlainSeed.text)).map
        fun p => ⟨p.1, p.2, .seed⟩ := by
    rw [seedSpans_eq, shownText_append_quotedList, findAll_quotedList hshown]
  refine ⟨hspans, ?_⟩
  have hline : shownText before ++ Text.quotedList (seeds.map PlainSeed.text)
      = (shownText before ++ [.char '[']) ++ (List.intercalate (", " : Text)
        ((seeds.map PlainSeed.text).map inQuotes) ++ [.char ']']) := by
    simp [Text.quotedList, Text.bracketed, inQuotes, Function.comp_def, PlainSeed.quoted_text]
  have htexts :=
    textIn_places (seeds.map PlainSeed.text) (shownText before ++ [.char '[']) [.char ']']
  rw [List.length_append, List.length_singleton] at htexts
  rw [hspans, shownText_append_quotedList, hline, List.map_map]
  exact htexts

/-- The seeds of a list are the seed spans of the list as it is shown, one for each in order, and of
the two notices that end with such a list, the local address before it having no colon. -/
theorem seeds_standOut (seeds : List PlainSeed) :
    let items := seeds.map PlainSeed.text
    StandOut (Text.quotedList items) 2 items ∧
      StandOut (Notice.seedsOverridden items).message 26 items ∧
      ∀ localIp : Text, .char ':' ∉ localIp →
        StandOut (Notice.normalized localIp items).message ((shownText localIp).length + 40)
          items := by
  intro items
  refine ⟨standOut_append [] (by simp) seeds,
    standOut_append "replace seed nodes with=" (by decide) seeds, ?_⟩
  intro localIp h
  have hbefore : .char ':' ∉
      ("after replace, the localIP=" : Text) ++ localIp ++ (", seedUrls=" : Text) := by
    have hfirst : .char ':' ∉ ("after replace, the localIP=" : Text) := by decide
    have hlast : .char ':' ∉ (", seedUrls=" : Text) := by decide
    simp only [List.mem_append, hfirst, h, hlast, or_self, not_false_eq_true]
  have hlength : (shownText (("after replace, the localIP=" : Text) ++ localIp
      ++ (", seedUrls=" : Text))).length + 2 = (shownText localIp).length + 40 := by
    have hfirst : (shownText ("after replace, the localIP=" : Text)).length = 27 := by decide
    have hlast : (shownText (", seedUrls=" : Text)).length = 11 := by decide
    have hparts : ∀ s t : Text, shownText (s ++ t) = shownText s ++ shownText t :=
      fun s t => List.filter_append s t
    rw [hparts, hparts, List.length_append, List.length_append, hfirst, hlast]
    omega
  have hall := standOut_append _ hbefore seeds
  rw [hlength] at hall
  exact hall

theorem seeds_standOut_numbered :
    let seeds : List PlainSeed :=
      [⟨"3-a.b-", "09003", "1", by decide, by decide, by decide, by decide, by decide, by decide⟩,
        ⟨"10.0.0.1", "9003", "40010", by decide, by decide, by decide, by decide, by decide,
          by decide⟩]
    let items := seeds.map PlainSeed.text
    .char ':' ∉ ("10.0.0.9" : Text) ∧
      seedSpans (Text.quotedList items) = [⟨2, 16, .seed⟩, ⟨20, 39, .seed⟩] ∧
      seedSpans (Notice.normalized "10.0.0.9" items).message
        = [⟨48, 62, .seed⟩, ⟨66, 85, .seed⟩] := by
  intro seeds items
  have h : .char ':' ∉ ("10.0.0.9" : Text) := by decide
  obtain ⟨hlist, -, hnotice⟩ := seeds_standOut seeds
  exact ⟨h, hlist.places, (hnotice _ h).places⟩

end Log

end NodeSettings
