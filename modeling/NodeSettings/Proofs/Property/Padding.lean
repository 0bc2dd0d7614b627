import NodeSettings.Proofs.Seed.List
import NodeSettings.Property.Value

/-!
# Blank characters around a value

Blank characters around a value change nothing of what a property reads: neither whether it is
taken, nor the value, nor why it is refused. In a list of seeds the same holds of every entry.
-/

namespace NodeSettings

/-! ### Cutting padded text -/

namespace Text

theorem not_mem_of_blank {w : Text} {c : CodePoint} (h : ∀ d ∈ w, isBlank d)
    (hc : isBlank c = false) :
    c ∉ w := by
  intro hm
  rw [h c hm] at hc
  cases hc

variable {sep : CodePoint} {w : Text}

theorem map_trim_splitOn_before (hsep : isBlank sep = false) (h : ∀ c ∈ w, isBlank c) (s : Text) :
    (splitOn sep (w ++ s)).map trim = (splitOn sep s).map trim := by
  have hw := not_mem_of_blank h hsep
  have htrim : ∀ t, trim (w ++ t) = trim t := by
    intro t
    rw [← List.append_nil (w ++ t)]
    exact trim_append h (by simp) t
  by_cases hs : sep ∈ s
  · -- up to the first separator
    obtain ⟨first, rest, rfl, hfirst⟩ := List.eq_append_cons_of_mem hs
    have hpiece : sep ∉ w ++ first := by simp [hw, hfirst]
    rw [← List.append_assoc, splitOn_append_cons_of_not_mem hpiece,
      splitOn_append_cons_of_not_mem hfirst, List.map_cons, List.map_cons, htrim]
  · have hpiece : sep ∉ w ++ s := by simp [hw, hs]
    rw [splitOn_of_not_mem hpiece, splitOn_of_not_mem hs, List.map_singleton, List.map_singleton,
      htrim]

theorem map_trim_splitOn_after (hsep : isBlank sep = false) (h : ∀ c ∈ w, isBlank c) (s : Text) :
    (splitOn sep (s ++ w)).map trim = (splitOn sep s).map trim := by
  have hw := not_mem_of_blank h hsep
  have hnone : ∀ c ∈ ([] : Text), isBlank c := by simp
  have htrim : ∀ t, trim (t ++ w) = trim t := fun t => trim_append hnone h t
  by_cases hs : sep ∈ s
  · -- from the last separator on
    obtain ⟨last, rest, hreverse, hlast⟩ := List.eq_append_cons_of_mem (List.mem_reverse.mpr hs)
    have hcut : s = rest.reverse ++ sep :: last.reverse := by
      rw [← List.reverse_reverse s, hreverse]
      simp
    have hpiece : sep ∉ last.reverse ++ w := by simp [hw, hlast]
    have hpiece' : sep ∉ last.reverse := by simpa using hlast
    rw [hcut, List.append_assoc, List.cons_append, splitOn_append_cons, splitOn_append_cons,
      splitOn_of_not_mem hpiece, splitOn_of_not_mem hpiece', List.map_append, List.map_append,
      List.map_singleton, List.map_singleton, htrim]
  · have hpiece : sep ∉ s ++ w := by simp [hw, hs]
    rw [splitOn_of_not_mem hpiece, splitOn_of_not_mem hs, List.map_singleton, List.map_singleton,
      htrim]

end Text

/-! ### Padded values -/

/-- A text with blank characters around it. -/
structure Padded where
  before : Text
  raw : Text
  after : Text
  blankBefore : ∀ c ∈ before, Text.isBlank c
  blankAfter : ∀ c ∈ after, Text.isBlank c

namespace Padded

def text (value : Padded) : Text := value.before ++ value.raw ++ value.after

theorem trim_text (value : Padded) : Text.trim value.text = Text.trim value.raw :=
  Text.trim_append value.blankBefore value.blankAfter value.raw

theorem entries_text (value : Padded) : Seed.entries value.text = Seed.entries value.raw := by
  have hcomma : Text.isBlank ',' = false := by decide
  rw [Seed.entries, Padded.text, Text.map_trim_splitOn_after hcomma value.blankAfter,
    Text.map_trim_splitOn_before hcomma value.blankBefore]
  rfl

end Padded

theorem Seed.entries_joined (pieces : List Text) :
    entries (List.intercalate [','] pieces) = pieces.flatMap entries := by
  induction pieces with
  | nil => rfl
  | cons piece rest ih =>
    cases rest with
    | nil => simp
    | cons next rest =>
      rw [List.intercalate_cons_cons, List.append_assoc, List.singleton_append, entries_append, ih,
        ← List.flatMap_cons]

theorem Seed.parseList_congr {list list' : Text} (h : entries list = entries list') :
    parseList list = parseList list' := by
  rw [parseList, parseList, h]

/-! ### Reading padded values -/

theorem Padded.read_text (value : Padded) (k : Kind) : k.read value.text = k.read value.raw := by
  have htrim := value.trim_text
  cases k with
  | text => simp only [Kind.read, readText, htrim]
  | integer => simp only [Kind.read, readInteger, Decimal.parse, htrim]
  | boolean => simp only [Kind.read, readBoolean, htrim]
  | level => simp only [Kind.read, readLevel, Consistency.parse?, htrim]
  | seeds => simp only [Kind.read, readSeeds, Seed.parseList_congr value.entries_text]

/-- A property reads a value with blank characters around it as it reads the value, and the entries
of a list of seeds with blank characters around each as it reads the entries. -/
theorem Property.read_padded (p : Property) (value : Padded) (elements : List Padded) :
    p.read value.text = p.read value.raw ∧
      Property.seeds.read (List.intercalate [','] (elements.map Padded.text))
        = Property.seeds.read (List.intercalate [','] (elements.map Padded.raw)) := by
  refine ⟨value.read_text p.kind, ?_⟩
  have hentries : Seed.entries (List.intercalate [','] (elements.map Padded.text))
      = Seed.entries (List.intercalate [','] (elements.map Padded.raw)) := by
    simp only [Seed.entries_joined, List.flatMap_map, Padded.entries_text]
  simp only [Property.read, Kind.read, readSeeds, Seed.parseList_congr hentries]

theorem read_padded_between_separators :
    let port : Padded :=
      ⟨"\u3000", "9003", "\x1C\t", List.all_eq_true.mp rfl, List.all_eq_true.mp rfl⟩
    let first : Padded :=
      ⟨"\u2003", "a:1:2", "\t", List.all_eq_true.mp rfl, List.all_eq_true.mp rfl⟩
    let gap : Padded := ⟨" ", "", "", List.all_eq_true.mp rfl, List.all_eq_true.mp rfl⟩
    let last : Padded := ⟨"", "b:3:4", " \x1C", List.all_eq_true.mp rfl, List.all_eq_true.mp rfl⟩
    Property.metaPort.read port.text = .ok (9003 : Int) ∧
      Property.seeds.read (List.intercalate [','] ([first, gap, last].map Padded.text))
        = .ok ["a:1:2", "b:3:4"] := by
  intro port first gap last
  have h := Property.read_padded .metaPort port [first, gap, last]
  exact ⟨h.1.trans rfl, h.2.trans rfl⟩

end NodeSettings
