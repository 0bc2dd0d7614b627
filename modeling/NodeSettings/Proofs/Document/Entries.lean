import NodeSettings.Document.Reader

/-!
# What a document says

A document is read as the entries in it that say something. It has bindings if none of these is
malformed, and then each of them is a binding.
-/

namespace NodeSettings.Document

/-! ### Entries -/

/-- The entries of a text that say something. -/
def significant (s : Text) : List Entry :=
  ((places s).map Place.entry).filter (· ≠ .nothing)

theorem significant_of_ne_nil {s : Text} (hs : s ≠ []) :
    significant s = [(readEntry s).1].filter (· ≠ .nothing) ++ significant (readEntry s).2 := by
  obtain ⟨c, body, rfl⟩ := List.exists_cons_of_ne_nil hs
  rw [significant, places, List.map_cons, ← List.singleton_append, List.filter_append]
  rfl

theorem significant_nil : significant [] = [] := by
  rw [significant, places]
  rfl

/-- The blank lines before an entry are a part of it. -/
theorem significant_dropWhile (s : Text) :
    significant (s.dropWhile Text.isBlank) = significant s := by
  cases s with
  | nil => rfl
  | cons c rest =>
    rw [significant_of_ne_nil (List.cons_ne_nil c rest)]
    cases hd : (c :: rest).dropWhile Text.isBlank with
    | nil =>
      simp only [readEntry, hd, significant_nil]
      rfl
    | cons d body =>
      have hhead := List.head?_dropWhile_not Text.isBlank (c :: rest)
      rw [hd] at hhead
      have hblank : ¬ Text.isBlank d = true := by simpa using hhead
      have hidem : (d :: body).dropWhile Text.isBlank = d :: body := by
        rw [List.dropWhile_cons, if_neg hblank]
      rw [significant_of_ne_nil (List.cons_ne_nil d body)]
      simp only [readEntry, hd, hidem]

/-! ### Bindings -/

def Entry.bound? : Entry → Option (Text × Text)
  | .binding pair => some (pair.1, pair.2.getD [])
  | _ => none

theorem malformed_mem_significant {s : Text} :
    .malformed ∈ significant s ↔ ∃ place ∈ places s, place.entry = .malformed := by
  simp [significant]

theorem map_pairs (document : Text) :
    (pairs document).map (fun pair => (pair.1, pair.2.getD []))
      = (significant (withoutMark document)).filterMap Entry.bound? := by
  rw [pairs, significant, List.filterMap_filter, List.filterMap_map, List.map_filterMap]
  congr 1
  funext place
  simp only [Function.comp_apply]
  cases place.entry <;> rfl

/-- A document is read without fault exactly if no entry is malformed. -/
theorem bindings_eq_ok_iff {document : Text} {b : Bindings} :
    bindings document = .ok b ↔ .malformed ∉ significant (withoutMark document) ∧
      b = (significant (withoutMark document)).filterMap Entry.bound? := by
  rw [malformed_mem_significant, ← map_pairs]
  simp only [bindings]
  cases hf : (places (withoutMark document)).find? fun place => place.entry = .malformed with
  | some place =>
    have hm := List.mem_of_find?_eq_some hf
    have hp := List.find?_some hf
    simp only [reduceCtorEq, false_iff, not_and]
    exact fun hnone => absurd ⟨place, hm, by simpa using hp⟩ hnone
  | none =>
    rw [List.find?_eq_none] at hf
    simp only [Except.ok.injEq]
    refine ⟨fun h => ⟨?_, h.symm⟩, fun h => h.2.symm⟩
    rintro ⟨place, hm, hp⟩
    exact hf place hm (by simpa using hp)

theorem withoutMark_of_head? {s : Text} (h : s.head? ≠ some (.char '\uFEFF')) :
    withoutMark s = s := by
  unfold withoutMark
  split
  · exact absurd rfl h
  · rfl

end NodeSettings.Document
