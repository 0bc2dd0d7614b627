import NodeSettings.Text.Blank

/-!
# Cutting and trimming

A text without the separator is its only piece, and the characters of a text are those of its
pieces and the separators between them: no piece holds the separator, and the pieces with a
separator between each two are the text. A trimmed text has no blank characters at its ends, and
such a text is left as it is.
-/

namespace NodeSettings.Text

theorem splitOn_eq_list (sep : CodePoint) (s : Text) : splitOn sep s = List.splitOn sep s := by
  induction s with
  | nil => rfl
  | cons c rest ih =>
    rw [List.splitOn_cons_eq_if_modifyHead, splitOn]
    by_cases hc : c = sep
    · simp [hc, ih]
    · simp only [hc, if_false, beq_iff_eq, ← ih]
      cases hs : splitOn sep rest with
      | nil => exact absurd hs (splitOn_ne_nil sep rest)
      | cons first pieces => rfl

theorem splitOn_of_not_mem {sep : CodePoint} {s : Text} (h : sep ∉ s) : splitOn sep s = [s] := by
  rw [splitOn_eq_list, List.splitOn_eq_singleton h]

theorem splitOn_append_cons_of_not_mem {sep : CodePoint} {a : Text} (h : sep ∉ a) (b : Text) :
    splitOn sep (a ++ sep :: b) = a :: splitOn sep b := by
  rw [splitOn_append_cons, splitOn_of_not_mem h]
  rfl

theorem intercalate_splitOn (sep : CodePoint) (s : Text) :
    List.intercalate [sep] (splitOn sep s) = s := by
  rw [splitOn_eq_list, List.intercalate_splitOn]

theorem splitOn_intercalate {sep : CodePoint} {pieces : List Text}
    (h : ∀ piece ∈ pieces, sep ∉ piece) (hne : pieces ≠ []) :
    splitOn sep (List.intercalate [sep] pieces) = pieces := by
  rw [splitOn_eq_list, List.splitOn_intercalate sep h hne]

theorem forall_mem_intercalate {p : CodePoint → Prop} {separator : Text} (hs : ∀ c ∈ separator, p c)
    {pieces : List Text} (h : ∀ piece ∈ pieces, ∀ c ∈ piece, p c) :
    ∀ c ∈ List.intercalate separator pieces, p c := by
  induction pieces with
  | nil => exact fun _ hc => absurd hc List.not_mem_nil
  | cons piece pieces ih =>
    have hpiece := h piece List.mem_cons_self
    have hrest := ih fun t ht => h t (List.mem_cons_of_mem piece ht)
    cases pieces with
    | nil =>
      rw [List.intercalate_singleton]
      exact hpiece
    | cons second pieces =>
      rw [List.intercalate_cons_cons]
      exact List.forall_mem_append.mpr ⟨List.forall_mem_append.mpr ⟨hpiece, hs⟩, hrest⟩

theorem not_mem_of_mem_splitOn {sep : CodePoint} {s piece : Text} (h : piece ∈ splitOn sep s) :
    sep ∉ piece := by
  induction s generalizing piece with
  | nil =>
    rw [splitOn, List.mem_singleton] at h
    simp [h]
  | cons c rest ih =>
    by_cases hc : c = sep
    · rw [splitOn, if_pos hc, List.mem_cons] at h
      rcases h with h | h
      · simp [h]
      · exact ih h
    · cases hs : splitOn sep rest with
      | nil => exact absurd hs (splitOn_ne_nil sep rest)
      | cons first pieces =>
        rw [hs] at ih
        simp only [splitOn, hc, if_false, hs, List.mem_cons] at h
        rcases h with rfl | h
        · rw [List.mem_cons, not_or]
          exact ⟨Ne.symm hc, ih List.mem_cons_self⟩
        · exact ih (List.mem_cons_of_mem first h)

theorem eq_or_mem_of_mem_splitOn (sep : CodePoint) {s : Text} {c : CodePoint} (h : c ∈ s) :
    c = sep ∨ ∃ piece ∈ splitOn sep s, c ∈ piece := by
  induction s with
  | nil => simp at h
  | cons d rest ih =>
    by_cases hd : d = sep
    · rcases List.mem_cons.mp h with rfl | hc
      · exact .inl hd
      · rcases ih hc with hs | ⟨piece, hp, hm⟩
        · exact .inl hs
        · exact .inr ⟨piece, by simp [splitOn, hd, hp], hm⟩
    · cases hs : splitOn sep rest with
      | nil => exact absurd hs (splitOn_ne_nil sep rest)
      | cons first pieces =>
        have hcut : splitOn sep (d :: rest) = (d :: first) :: pieces := by
          simp [splitOn, hd, hs]
        rw [hcut]
        rcases List.mem_cons.mp h with rfl | hc
        · exact .inr ⟨c :: first, List.mem_cons_self, List.mem_cons_self⟩
        · rcases ih hc with he | ⟨piece, hp, hm⟩
          · exact .inl he
          · rw [hs] at hp
            rcases List.mem_cons.mp hp with rfl | hp
            · exact .inr ⟨d :: piece, List.mem_cons_self, List.mem_cons_of_mem d hm⟩
            · exact .inr ⟨piece, List.mem_cons_of_mem _ hp, hm⟩

/-! ### Cutting before a character -/

theorem takeWhile_ne_append {c : CodePoint} {s : Text} (h : c ∉ s) (after : Text) :
    (s ++ c :: after).takeWhile (· ≠ c) = s := by
  have hall : ∀ d ∈ s, decide (d ≠ c) = true := by
    intro d hd
    exact decide_eq_true fun he => h (he ▸ hd)
  rw [List.takeWhile_append_of_pos hall]
  simp

theorem dropWhile_ne_append {c : CodePoint} {s : Text} (h : c ∉ s) (after : Text) :
    (s ++ c :: after).dropWhile (· ≠ c) = c :: after := by
  have hall : ∀ d ∈ s, decide (d ≠ c) = true := by
    intro d hd
    exact decide_eq_true fun he => h (he ▸ hd)
  rw [List.dropWhile_append_of_pos hall]
  simp

theorem not_mem_takeWhile_ne (c : CodePoint) (s : Text) : c ∉ s.takeWhile (· ≠ c) := by
  intro hm
  have hp := List.all_eq_true.mp List.all_takeWhile c hm
  simp at hp

theorem eq_of_dropWhile_ne {c d : CodePoint} {s after : Text}
    (h : s.dropWhile (· ≠ c) = d :: after) :
    s = s.takeWhile (· ≠ c) ++ c :: after := by
  have hhead := List.head?_dropWhile_not (· ≠ c) s
  rw [h] at hhead
  have hd : d = c := by simpa using hhead
  have hsplit : s.takeWhile (· ≠ c) ++ s.dropWhile (· ≠ c) = s := List.takeWhile_append_dropWhile
  rw [h, hd] at hsplit
  exact hsplit.symm

/-! ### Rows of digits -/

theorem isDigit_of_mem {s : Text} {c : CodePoint} (h : isDigits s) (hm : c ∈ s) : isDigit c := by
  simp only [isDigits, Bool.and_eq_true, List.all_eq_true] at h
  exact h.2 c hm

theorem not_mem_of_isDigits {s : Text} {c : CodePoint} (h : isDigits s) (hc : isDigit c = false) :
    c ∉ s := by
  intro hm
  rw [isDigit_of_mem h hm] at hc
  contradiction

theorem isDigits_replicate {c : CodePoint} (hc : isDigit c) (n : Nat) :
    isDigits (List.replicate (n + 1) c) := by
  simp only [isDigits, Bool.and_eq_true, List.all_eq_true]
  refine ⟨rfl, fun d hd => ?_⟩
  rw [List.eq_of_mem_replicate hd]
  exact hc

/-- The visible characters of the basic range are not blank. -/
theorem isBlank_of_visible {c : CodePoint} (hlow : 0x21 ≤ c.toNat) (hhigh : c.toNat ≤ 0x7E) :
    isBlank c = false := by
  simp only [isBlank, Ranges.has, blankRanges, List.any_cons, List.any_nil, Bool.or_false,
    Bool.or_eq_false_iff, Bool.and_eq_false_iff, decide_eq_false_iff_not]
  omega

theorem toNat_of_isDigit {c : CodePoint} (h : isDigit c) : 48 ≤ c.toNat ∧ c.toNat ≤ 57 := by
  simp only [isDigit, Bool.and_eq_true, decide_eq_true_eq, CodePoint.le_def] at h
  exact h

theorem isBlank_of_isDigit {c : CodePoint} (h : isDigit c) : isBlank c = false := by
  obtain ⟨hlow, hhigh⟩ := toNat_of_isDigit h
  exact isBlank_of_visible (by omega) (by omega)

theorem isBlank_of_isDigits {s : Text} (h : isDigits s) : ∀ c ∈ s, isBlank c = false :=
  fun _ hc => isBlank_of_isDigit (isDigit_of_mem h hc)

/-! ### Trimming nothing -/

theorem trimEnd_of_getLast? {s : Text} (h : s.getLast?.all (!isBlank ·)) : trimEnd s = s := by
  rw [← List.head?_reverse] at h
  rw [trimEnd]
  cases hr : s.reverse with
  | nil =>
    rw [List.reverse_eq_nil_iff] at hr
    rw [hr]
    rfl
  | cons c rest =>
    have hc : ¬ isBlank c = true := by simpa [hr] using h
    rw [List.dropWhile_cons, if_neg hc, ← hr, List.reverse_reverse]

theorem trimEnd_of_forall {s : Text} (h : ∀ c ∈ s, isBlank c = false) : trimEnd s = s := by
  apply trimEnd_of_getLast?
  cases hl : s.getLast? with
  | none => rfl
  | some c => simpa using h c (List.mem_of_getLast? hl)

theorem trim_of_ends {s : Text} (hstart : s.head?.all (!isBlank ·))
    (hend : s.getLast?.all (!isBlank ·)) : trim s = s := by
  have hdrop : trimStart s = s := by
    cases s with
    | nil => rfl
    | cons c rest =>
      have hc : ¬ isBlank c = true := by simpa using hstart
      rw [trimStart, List.dropWhile_cons, if_neg hc]
  rw [trim, hdrop, trimEnd_of_getLast? hend]

theorem trim_of_forall {s : Text} (h : ∀ c ∈ s, isBlank c = false) : trim s = s := by
  have hends : ∀ {c? : Option CodePoint}, (∀ c, c? = some c → c ∈ s) → c?.all (!isBlank ·) := by
    intro c? hmem
    cases hc : c? with
    | none => rfl
    | some c => simpa using h c (hmem c hc)
  exact trim_of_ends (hends fun _ => List.mem_of_head?) (hends fun _ => List.mem_of_getLast?)

/-! ### What trimming leaves -/

theorem head?_dropWhile_isBlank (s : Text) : (s.dropWhile isBlank).head?.all (!isBlank ·) := by
  have hhead := List.head?_dropWhile_not isBlank s
  cases hd : (s.dropWhile isBlank).head? with
  | none => rfl
  | some c =>
    rw [hd] at hhead
    simpa using hhead

theorem exists_trimEnd_append (s : Text) :
    ∃ cut, (∀ c ∈ cut, isBlank c) ∧ trimEnd s ++ cut = s := by
  refine ⟨(s.reverse.takeWhile isBlank).reverse, fun c hc => ?_, ?_⟩
  · exact List.all_eq_true.mp List.all_takeWhile c (List.mem_reverse.mp hc)
  · rw [trimEnd, ← List.reverse_append, List.takeWhile_append_dropWhile, List.reverse_reverse]

theorem mem_of_mem_trim {c : CodePoint} {s : Text} (h : c ∈ trim s) : c ∈ s := by
  obtain ⟨cut, -, hcut⟩ := exists_trimEnd_append (trimStart s)
  have hstart : c ∈ trimStart s := by
    rw [← hcut]
    exact List.mem_append_left cut h
  exact (List.dropWhile_sublist isBlank).subset hstart

theorem head?_trim (s : Text) : (trim s).head?.all (!isBlank ·) := by
  obtain ⟨cut, -, hcut⟩ := exists_trimEnd_append (trimStart s)
  have hhead : (trimStart s).head?.all (!isBlank ·) := head?_dropWhile_isBlank s
  rw [trim]
  cases ht : trimEnd (trimStart s) with
  | nil => rfl
  | cons c rest =>
    rw [ht] at hcut
    rw [← hcut] at hhead
    exact hhead

theorem getLast?_trim (s : Text) : (trim s).getLast?.all (!isBlank ·) := by
  rw [trim, trimEnd, List.getLast?_reverse]
  exact head?_dropWhile_isBlank (trimStart s).reverse

/-- A text is what trimming leaves of it with blank characters around. -/
theorem exists_blanks (s : Text) :
    ∃ before after, (∀ c ∈ before, isBlank c) ∧ (∀ c ∈ after, isBlank c) ∧
      before ++ trim s ++ after = s := by
  obtain ⟨after, hafter, hend⟩ := exists_trimEnd_append (trimStart s)
  have hbefore : ∀ c ∈ s.takeWhile isBlank, isBlank c := List.all_eq_true.mp List.all_takeWhile
  refine ⟨s.takeWhile isBlank, after, hbefore, hafter, ?_⟩
  rw [trim, List.append_assoc, hend]
  exact List.takeWhile_append_dropWhile

/-! ### Blank characters around a text -/

theorem trimStart_append {before : Text} (h : ∀ c ∈ before, isBlank c) (s : Text) :
    trimStart (before ++ s) = trimStart s := List.dropWhile_append_of_pos h

theorem trimEnd_append {after : Text} (h : ∀ c ∈ after, isBlank c) (s : Text) :
    trimEnd (s ++ after) = trimEnd s := by
  have hreverse : ∀ c ∈ after.reverse, isBlank c := fun c hc => h c (List.mem_reverse.mp hc)
  rw [trimEnd, List.reverse_append, List.dropWhile_append_of_pos hreverse, trimEnd]

theorem trim_append {before after : Text} (hbefore : ∀ c ∈ before, isBlank c)
    (hafter : ∀ c ∈ after, isBlank c) (s : Text) : trim (before ++ s ++ after) = trim s := by
  have hnone : after.dropWhile isBlank = [] := by
    rw [← List.append_nil after, List.dropWhile_append_of_pos hafter]
    rfl
  rw [trim, List.append_assoc, trimStart_append hbefore, trim, trimStart, trimStart,
    List.dropWhile_append]
  split
  · rename_i hnil
    rw [List.isEmpty_iff] at hnil
    rw [hnil, hnone]
  · rw [trimEnd_append hafter]

end NodeSettings.Text
