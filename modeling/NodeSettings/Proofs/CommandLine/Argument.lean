import NodeSettings.CommandLine.Overrides

/-!
# What stands on a command line

An argument is a flag where it is the text of one, and a flag with its value where that text is
followed by an equals sign. The arguments that can be the value of a flag before them are the
positional ones: those without a dash in front, the dash alone, the negative numbers, and text with
a space that is not itself a flag with its value.
-/

namespace NodeSettings.CommandLine

/-! ### Flags -/

theorem Flag.text_eq_cons (flag : Flag) : ∃ rest, flag.text = .char '-' :: .char '-' :: rest := by
  rcases flag with (_ | _ | _) | _
  all_goals exact ⟨_, rfl⟩

theorem Flag.not_mem_text (flag : Flag) : .char '=' ∉ flag.text ∧ .char ' ' ∉ flag.text := by
  rcases flag with (_ | _ | _) | _
  all_goals decide

theorem Flag.ofText?_text (flag : Flag) : Flag.ofText? flag.text = some flag := by
  rcases flag with (_ | _ | _) | _
  all_goals decide

theorem Flag.ofText?_eq_some_iff {s : Text} {flag : Flag} :
    Flag.ofText? s = some flag ↔ s = flag.text := by
  constructor
  · intro h
    have hs := List.find?_some h
    exact (of_decide_eq_true hs).symm
  · rintro rfl
    exact flag.ofText?_text

theorem attachedFlag?_append (flag : Flag) (value : Text) :
    attachedFlag? (flag.text ++ .char '=' :: value) = some (flag, value) := by
  have hall : ∀ c ∈ flag.text, decide (c ≠ '=') = true := by
    intro c hc
    rw [decide_eq_true_eq]
    rintro rfl
    exact flag.not_mem_text.1 hc
  have hd : (flag.text ++ .char '=' :: value).dropWhile (· ≠ .char '=') = .char '=' :: value := by
    rw [List.dropWhile_append_of_pos hall]
    simp
  have ht : (flag.text ++ .char '=' :: value).takeWhile (· ≠ .char '=') = flag.text := by
    rw [List.takeWhile_append_of_pos hall]
    simp
  rw [attachedFlag?, hd, ht, flag.ofText?_text]
  rfl

theorem attachedFlag?_eq_some_iff {s value : Text} {flag : Flag} :
    attachedFlag? s = some (flag, value) ↔ s = flag.text ++ .char '=' :: value := by
  constructor
  · intro h
    have hcut : s.takeWhile (· ≠ .char '=') ++ s.dropWhile (· ≠ .char '=') = s :=
      List.takeWhile_append_dropWhile
    unfold attachedFlag? at h
    split at h
    · cases h
    · rename_i c rest hd
      obtain ⟨f, hf, he⟩ := Option.map_eq_some_iff.mp h
      cases he
      have hc : c = '=' := by
        have hhead := List.head?_dropWhile_not (· ≠ .char '=') s
        rw [hd] at hhead
        simpa using hhead
      rw [hd, Flag.ofText?_eq_some_iff.mp hf, hc] at hcut
      exact hcut.symm
  · rintro rfl
    exact attachedFlag?_append flag value

theorem classify_text (flag : Flag) : classify flag.text = .flag flag none := by
  obtain ⟨rest, hf⟩ := flag.text_eq_cons
  have ho := flag.ofText?_text
  rw [hf] at ho ⊢
  simp only [classify, classifyDashed, ho]

theorem ofText?_attached (flag : Flag) (value : Text) :
    Flag.ofText? (flag.text ++ .char '=' :: value) = none := by
  rw [Option.eq_none_iff_forall_ne_some]
  intro other h
  have hmem := other.not_mem_text.1
  rw [← Flag.ofText?_eq_some_iff.mp h] at hmem
  simp at hmem

theorem classify_attached (flag : Flag) (value : Text) :
    classify (flag.text ++ .char '=' :: value) = .flag flag (some value) := by
  obtain ⟨rest, hf⟩ := flag.text_eq_cons
  have ho := ofText?_attached flag value
  have ha := attachedFlag?_append flag value
  rw [hf] at ho ha ⊢
  simp only [List.cons_append] at ho ha ⊢
  simp only [classify, classifyDashed, ho, ha, List.isEmpty_cons, Bool.false_eq_true, if_false]

/-! ### Negative numbers -/

/-- A number without a sign: a row of digits, or a row after a point and perhaps more digits. -/
inductive Numeric : Text → Prop
  | whole {digits : Text} (h : isDecimalRow digits) : Numeric digits
  | fraction {whole digits : Text} (hw : ∀ c ∈ whole, Text.isDecimalDigit c)
      (h : isDecimalRow digits) : Numeric (whole ++ .char '.' :: digits)

theorem all_of_isDecimalRow {s : Text} (h : isDecimalRow s) : ∀ c ∈ s, Text.isDecimalDigit c := by
  simp only [isDecimalRow, Bool.and_eq_true, List.all_eq_true] at h
  exact h.2

theorem ne_nil_of_isDecimalRow {s : Text} (h : isDecimalRow s) : s ≠ [] := by
  rintro rfl
  cases h

theorem Numeric.chars {s : Text} (h : Numeric s) : ∀ c ∈ s, Text.isDecimalDigit c ∨ c = '.' := by
  intro c hc
  cases h with
  | whole h => exact .inl (all_of_isDecimalRow h c hc)
  | fraction hw h =>
    rcases List.mem_append.mp hc with hm | hm
    · exact .inl (hw c hm)
    · rcases List.mem_cons.mp hm with rfl | hm
      · exact .inr rfl
      · exact .inl (all_of_isDecimalRow h c hm)

theorem Numeric.not_mem {s : Text} {c : CodePoint} (h : Numeric s)
    (hc : Text.isDecimalDigit c = false) (hdot : c ≠ '.') : c ∉ s := by
  intro hm
  rcases h.chars c hm with hd | rfl
  · rw [hc] at hd
    cases hd
  · exact hdot rfl

theorem Numeric.ne_nil {s : Text} (h : Numeric s) : s ≠ [] := by
  cases h with
  | whole h => exact ne_nil_of_isDecimalRow h
  | fraction _ _ => simp

theorem numeric_iff {s : Text} : Numeric s ↔ isDecimalRow s ∨
    ∃ fraction, s.dropWhile Text.isDecimalDigit = .char '.' :: fraction ∧
      isDecimalRow fraction := by
  constructor
  · intro h
    cases h with
    | whole h => exact .inl h
    | @fraction whole digits hw h =>
      have hdot : Text.isDecimalDigit '.' = false := by decide
      rw [List.dropWhile_append_of_pos hw, List.dropWhile_cons, hdot, if_neg Bool.false_ne_true]
      exact .inr ⟨digits, rfl, h⟩
  · rintro (h | ⟨fraction, hd, h⟩)
    · exact .whole h
    · have hcut : s.takeWhile Text.isDecimalDigit ++ s.dropWhile Text.isDecimalDigit = s :=
        List.takeWhile_append_dropWhile
      rw [← hcut, hd]
      exact .fraction (List.all_eq_true.mp List.all_takeWhile) h

theorem isNumber_iff {s : Text} : isNumber s ↔ Numeric (withoutFeed s) := by
  rw [numeric_iff, isNumber, Bool.or_eq_true]
  refine or_congr_right ?_
  constructor
  · intro h
    split at h
    · rename_i fraction hd
      exact ⟨fraction, hd, h⟩
    · cases h
  · rintro ⟨fraction, hd, h⟩
    rw [hd]
    exact h

theorem withoutFeed_of_ne {s : Text} (h : s.getLast? ≠ some (.char '\n')) : withoutFeed s = s := by
  rw [withoutFeed, if_neg h]

theorem withoutFeed_concat (s : Text) : withoutFeed (s ++ [.char '\n']) = s := by
  rw [withoutFeed, if_pos List.getLast?_concat, List.dropLast_concat]

theorem isNumber_iff_numeric {s : Text} :
    isNumber s ↔ Numeric s ∨ ∃ body, Numeric body ∧ s = body ++ [.char '\n'] := by
  rw [isNumber_iff]
  constructor
  · intro h
    by_cases hl : s.getLast? = some (.char '\n')
    · obtain ⟨body, rfl⟩ := List.getLast?_eq_some_iff.mp hl
      rw [withoutFeed_concat] at h
      exact .inr ⟨body, h, rfl⟩
    · rw [withoutFeed_of_ne hl] at h
      exact .inl h
  · rintro (h | ⟨body, h, rfl⟩)
    · have hno : .char '\n' ∉ s := h.not_mem (by decide) (by decide)
      rwa [withoutFeed_of_ne fun he => hno (List.mem_of_getLast? he)]
    · rwa [withoutFeed_concat]

theorem head?_of_isNumber {s : Text} (h : isNumber s) : s.head? ≠ some (.char '-') := by
  have hnum : ∀ body, Numeric body → body.head? ≠ some (.char '-') := fun body hb hd =>
    hb.not_mem (by decide) (by decide) (List.mem_of_mem_head? hd)
  rcases isNumber_iff_numeric.mp h with hs | ⟨body, hb, rfl⟩
  · exact hnum s hs
  · obtain ⟨c, rest, rfl⟩ := List.exists_cons_of_ne_nil hb.ne_nil
    exact hnum (c :: rest) hb

/-! ### Values -/

/-- A text that can be the value of the flag before it. A line feed may end a negative number. -/
inductive Positional : Text → Prop
  | undashed {s : Text} (h : s.head? ≠ some (.char '-')) : Positional s
  | dash : Positional ['-']
  | number {s : Text} (h : Numeric s) : Positional ('-' :: s)
  | numberFeed {s : Text} (h : Numeric s) : Positional (.char '-' :: (s ++ [.char '\n']))
  | spaced {s : Text} (hs : .char ' ' ∈ s)
      (hf : ∀ (flag : Flag) value, s ≠ flag.text ++ .char '=' :: value) :
    Positional s

/-- A flag goes on with a second dash after its first. -/
theorem not_flag_of_head? {s : Text} (h : s.head? ≠ some (.char '-')) :
    Flag.ofText? ('-' :: s) = none ∧ attachedFlag? ('-' :: s) = none := by
  have hno : ∀ (flag : Flag) (more : Text), .char '-' :: s ≠ flag.text ++ more := by
    intro flag more he
    obtain ⟨rest, ht⟩ := flag.text_eq_cons
    rw [ht] at he
    cases he
    exact h rfl
  constructor
  · rw [Option.eq_none_iff_forall_ne_some]
    intro flag hf
    exact hno flag [] (by rw [Flag.ofText?_eq_some_iff.mp hf, List.append_nil])
  · rw [Option.eq_none_iff_forall_ne_some]
    rintro ⟨flag, value⟩ ha
    exact hno flag _ (attachedFlag?_eq_some_iff.mp ha)

theorem classifyDashed_eq_value_iff {rest : Text} :
    classifyDashed rest = .value ↔ Flag.ofText? ('-' :: rest) = none ∧
      (rest = [] ∨ attachedFlag? ('-' :: rest) = none ∧ (isNumber rest ∨ .char ' ' ∈ rest)) := by
  unfold classifyDashed
  cases ho : Flag.ofText? ('-' :: rest) with
  | some flag => simp
  | none =>
    cases rest with
    | nil => simp
    | cons c more =>
      cases ha : attachedFlag? ('-' :: c :: more) with
      | some occurrence => simp
      | none =>
        have hor : (isNumber (c :: more) || (c :: more).contains ' ') = true
            ↔ isNumber (c :: more) ∨ .char ' ' ∈ c :: more := by
          rw [Bool.or_eq_true, List.contains_iff_mem]
        rw [← hor]
        cases isNumber (c :: more) || (c :: more).contains ' ' <;> simp

theorem classify_eq_value_iff {s : Text} : classify s = .value ↔ Positional s := by
  constructor
  · intro h
    unfold classify at h
    split at h
    · rename_i rest
      obtain ⟨-, rfl | ⟨ha, hn | hs⟩⟩ := classifyDashed_eq_value_iff.mp h
      · exact .dash
      · rcases isNumber_iff_numeric.mp hn with hb | ⟨body, hb, rfl⟩
        · exact .number hb
        · exact .numberFeed hb
      · refine .spaced (List.mem_cons_of_mem _ hs) fun flag value he => ?_
        rw [attachedFlag?_eq_some_iff.mpr he] at ha
        cases ha
    · rename_i hno
      refine .undashed fun hd => ?_
      obtain ⟨rest, rfl⟩ := List.head?_eq_some_iff.mp hd
      exact hno rest rfl
  · have hnumber : ∀ rest, isNumber rest → classify ('-' :: rest) = .value := by
      intro rest hn
      obtain ⟨ho, ha⟩ := not_flag_of_head? (head?_of_isNumber hn)
      exact classifyDashed_eq_value_iff.mpr ⟨ho, .inr ⟨ha, .inl hn⟩⟩
    intro h
    cases h with
    | undashed h =>
      unfold classify
      split
      · exact absurd rfl h
      · rfl
    | dash => decide
    | number h => exact hnumber _ (isNumber_iff_numeric.mpr (.inl h))
    | numberFeed h => exact hnumber _ (isNumber_iff_numeric.mpr (.inr ⟨_, h, rfl⟩))
    | spaced hs hf =>
      unfold classify
      split
      · rename_i rest
        refine classifyDashed_eq_value_iff.mpr ⟨?_, .inr ⟨?_, .inr (by simpa using hs)⟩⟩
        · rw [Option.eq_none_iff_forall_ne_some]
          intro flag ho
          rw [Flag.ofText?_eq_some_iff.mp ho] at hs
          exact flag.not_mem_text.2 hs
        · rw [Option.eq_none_iff_forall_ne_some]
          rintro ⟨flag, value⟩ ha
          exact hf flag value (attachedFlag?_eq_some_iff.mp ha)
      · rfl

theorem isValue_iff {s : Text} : isValue s ↔ Positional s ∧ s ≠ endOfFlags := by
  simp only [isValue, Bool.and_eq_true, decide_eq_true_eq, classify_eq_value_iff]
  exact and_comm

end NodeSettings.CommandLine
