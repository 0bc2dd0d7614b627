import NodeSettings.Address.Literal
import NodeSettings.Address.Lookup
import NodeSettings.Proofs.Seed.Entry

/-!
# What a literal address looks like

An address in the four-part form is made of digits and points; one in the grouped form holds a
colon. A literal address is never empty, and it can stand in a seed entry if it holds no closing
bracket.
-/

namespace NodeSettings.Address

/-! ### The two forms -/

theorem eq_point_or_isDigit_of_isFourPart {s : Text} {c : CodePoint} (h : isFourPart s)
    (hc : c ∈ s) :
    c = '.' ∨ Text.isDigit c := by
  simp only [isFourPart, Bool.and_eq_true, List.all_eq_true] at h
  rcases Text.eq_or_mem_of_mem_splitOn '.' hc with hp | ⟨piece, hm, hcp⟩
  · exact .inl hp
  · have hpart := h.2 piece hm
    simp only [isPart, Text.isDigits, Bool.and_eq_true, List.all_eq_true] at hpart
    exact .inr (hpart.1.1.1.2 c hcp)

theorem ne_nil_of_isFourPart {s : Text} (h : isFourPart s) : s ≠ [] := by
  rintro rfl
  revert h
  decide

theorem colon_mem_of_splitGap? {s before after : Text} (h : splitGap? s = some (before, after)) :
    .char ':' ∈ s := by
  induction s generalizing before with
  | nil => simp [splitGap?] at h
  | cons c rest ih =>
    unfold splitGap? at h
    split at h
    · rename_i heq
      cases heq
      exact List.mem_cons_self
    · rename_i heq
      cases heq
      obtain ⟨⟨b, a⟩, hrest, -⟩ := Option.map_eq_some_iff.mp h
      have hm : (b, a) = (b, after) := by simp_all
      rw [hm] at hrest
      exact List.mem_cons_of_mem c (ih hrest)
    · cases h

theorem tailGroupCount?_singleton_ne (s : Text) : tailGroupCount? [s] ≠ some 8 := by
  simp only [tailGroupCount?]
  split
  · simp
  · split <;> simp

theorem colon_mem_of_isGrouped {s : Text} (h : isGrouped s) : .char ':' ∈ s := by
  unfold isGrouped at h
  split at h
  · rename_i before after hgap
    exact colon_mem_of_splitGap? hgap
  · refine Decidable.byContradiction fun hc => ?_
    rw [Text.splitOn_of_not_mem hc] at h
    exact tailGroupCount?_singleton_ne s (of_decide_eq_true h)

theorem colon_mem_of_isZonedGrouped {s : Text} (h : isZonedGrouped s) : .char ':' ∈ s := by
  unfold isZonedGrouped at h
  split at h
  · exact colon_mem_of_isGrouped h
  · simp only [Bool.and_eq_true] at h
    exact (List.takeWhile_sublist _).mem (colon_mem_of_isGrouped h.1)

/-! ### Literal addresses -/

theorem isFourPart_or_colon_mem_of_isLiteral {s : Text} (h : isLiteral s) :
    isFourPart s ∨ .char ':' ∈ s := by
  simp only [isLiteral, Bool.and_eq_true, Bool.or_eq_true] at h
  exact h.2.imp id colon_mem_of_isZonedGrouped

theorem ne_nil_of_isLiteral {s : Text} (h : isLiteral s) : s ≠ [] := by
  rcases isFourPart_or_colon_mem_of_isLiteral h with hf | hc
  · exact ne_nil_of_isFourPart hf
  · exact List.ne_nil_of_mem hc

theorem separable_of_isLiteral {s : Text} (h : isLiteral s) (hb : .char ']' ∉ s) :
    Seed.Separable s := by
  by_cases hc : .char ':' ∈ s
  · simpa [Seed.Separable, hc] using hb
  · have hf := (isFourPart_or_colon_mem_of_isLiteral h).resolve_right hc
    simp only [Seed.Separable, hc, if_false]
    intro hh
    rcases eq_point_or_isDigit_of_isFourPart hf (List.mem_of_head? hh) with he | hd
    · exact absurd he (by decide)
    · exact absurd hd (by decide)

/-! ### Directories -/

/-- An answer whose addresses are literal and can stand in brackets. -/
def Answer.Literal : Answer → Prop
  | .addresses list => ∀ a ∈ list, isLiteral a ∧ .char ']' ∉ a
  | .failure _ => True

instance : DecidablePred Answer.Literal
  | .addresses list => inferInstanceAs (Decidable (∀ a ∈ list, isLiteral a ∧ .char ']' ∉ a))
  | .failure _ => inferInstanceAs (Decidable True)

/-- A directory that answers with such addresses only. -/
def Directory.Literal (directory : Directory) : Prop := ∀ host, (directory host).Literal

theorem literal_ofTable {table : List (Text × Answer)} (h : ∀ entry ∈ table, entry.2.Literal) :
    (Directory.ofTable table).Literal := by
  intro host
  cases hl : table.lookup host with
  | none =>
    simp only [Directory.ofTable, hl]
    exact trivial
  | some answer =>
    obtain ⟨before, after, rfl, -⟩ := List.lookup_eq_some_iff.mp hl
    simp only [Directory.ofTable, hl]
    exact h (host, answer) (by simp)

theorem exists_preferred? (first : Text) (rest : List Text) :
    ∃ a, preferred? (first :: rest) = some a := by
  unfold preferred?
  cases (first :: rest).find? isFourPartFamily with
  | none => exact ⟨first, rfl⟩
  | some a => exact ⟨a, rfl⟩

end NodeSettings.Address
