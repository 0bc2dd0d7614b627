import NodeSettings.Config.Validation
import NodeSettings.Proofs.Seed.Reading
import NodeSettings.Seed.List

/-!
# Lists of entries, read and written again

Two lists with a comma between them are read as one after the other, and the first fault of the
first goes before those of the second. A list that was read holds entries without blank characters
at their ends and without commas, each of which describes a seed. Written with commas it is read as
itself, and the check of a configuration finds no fault in it.
-/

namespace NodeSettings.Seed

/-- An entry as it stands in a list that was read. -/
structure Listed (entry : Text) : Prop where
  ne_nil : entry ≠ []
  comma_not_mem : .char ',' ∉ entry
  trimmedStart : entry.head?.all (!Text.isBlank ·)
  trimmedEnd : entry.getLast?.all (!Text.isBlank ·)
  described : ∃ seed, parse entry = .ok seed

/-! ### Two lists -/

theorem entries_append (a b : Text) : entries (a ++ .char ',' :: b) = entries a ++ entries b := by
  simp only [entries, Text.splitOn_append_cons, List.map_append, List.filter_append]

theorem firstMalformed?_append (es es' : List Text) :
    firstMalformed? (es ++ es') = (firstMalformed? es).or (firstMalformed? es') := by
  simp only [firstMalformed?, List.find?_append, Option.map_or]

theorem parseList_append (a b : Text) :
    parseList (a ++ .char ',' :: b)
      = match parseList a, parseList b with
        | .error e, _ => .error e
        | .ok _, .error e => .error e
        | .ok es, .ok es' => .ok (es ++ es') := by
  simp only [parseList, entries_append, firstMalformed?_append]
  cases firstMalformed? (entries a) with
  | some e => rfl
  | none =>
    cases firstMalformed? (entries b) with
    | some e => rfl
    | none => rfl

/-! ### One list -/

theorem parseList_eq_ok_iff {list : Text} {es : List Text} :
    parseList list = .ok es ↔ es = entries list ∧ ∀ e ∈ es, ∃ seed, parse e = .ok seed := by
  have hfirst : firstMalformed? (entries list) = none
      ↔ ∀ e ∈ entries list, ∃ seed, parse e = .ok seed := by
    simp only [firstMalformed?, Option.map_eq_none_iff, List.find?_eq_none, parse_eq_ok_iff,
      ← Option.isSome_iff_exists, Option.isNone_iff_eq_none, Option.isSome_iff_ne_none]
  unfold parseList
  cases hf : firstMalformed? (entries list) with
  | some e =>
    rw [hf] at hfirst
    simp only [reduceCtorEq, false_iff] at hfirst ⊢
    rintro ⟨rfl, hall⟩
    exact hfirst hall
  | none =>
    rw [hf] at hfirst
    simp only [Except.ok.injEq]
    constructor
    · rintro rfl
      exact ⟨rfl, hfirst.mp rfl⟩
    · rintro ⟨rfl, -⟩
      rfl

theorem listed_of_mem {list : Text} {es : List Text} (h : parseList list = .ok es) :
    ∀ e ∈ es, Listed e := by
  obtain ⟨rfl, hall⟩ := parseList_eq_ok_iff.mp h
  intro e he
  have hdescribed := hall e he
  simp only [entries, List.mem_filter, List.mem_map] at he
  obtain ⟨⟨piece, hpiece, rfl⟩, hne⟩ := he
  have hcomma := Text.not_mem_of_mem_splitOn hpiece
  exact {
    ne_nil := by simpa using hne
    comma_not_mem := fun hm => hcomma (Text.mem_of_mem_trim hm)
    trimmedStart := Text.head?_trim piece
    trimmedEnd := Text.getLast?_trim piece
    described := hdescribed }

/-! ### Writing a list -/

theorem entries_intercalate {es : List Text} (h : ∀ e ∈ es, Listed e) :
    entries (List.intercalate [','] es) = es := by
  cases es with
  | nil => rfl
  | cons e rest =>
    have hsplit := Text.splitOn_intercalate (fun e he => (h e he).comma_not_mem)
      (List.cons_ne_nil e rest)
    have htrim : ∀ d ∈ e :: rest, Text.trim d = d := by
      intro d hd
      exact Text.trim_of_ends (h d hd).trimmedStart (h d hd).trimmedEnd
    rw [entries, hsplit, List.map_congr_left htrim, List.map_id', List.filter_eq_self]
    intro d hd
    simpa using (h d hd).ne_nil

theorem parseList_intercalate {es : List Text} (h : ∀ e ∈ es, Listed e) :
    parseList (List.intercalate [','] es) = .ok es :=
  parseList_eq_ok_iff.mpr ⟨(entries_intercalate h).symm, fun e he => (h e he).described⟩

/-! ### The check of a configuration -/

/-- The check finds no fault in the entries of a list that was read. -/
theorem validate_ne_malformedSeed {es : List Text} (h : ∀ e ∈ es, ∃ seed, parse e = .ok seed)
    (c : NodeConfig) (e : MalformedSeed) :
    ({ c with seeds := es }).validate ≠ .error (.malformedSeed e) := by
  intro hv
  obtain ⟨hmem, hnone⟩ := NodeConfig.malformedSeed_mem_violations.mp
    (NodeConfig.mem_violations_of_validate hv)
  obtain ⟨seed, hseed⟩ := h e.entry hmem
  rw [parse_eq_ok_iff, hnone] at hseed
  cases hseed

/-! ### Both -/

/-- Lists with a comma between them are read one after the other, and what was read is in normal
form: the entries are trimmed and describe seeds, the check of a configuration passes them, and
written with commas they are read as they are. -/
theorem parseList_append_normal (a b : Text) :
    (parseList (a ++ .char ',' :: b)
      = match parseList a, parseList b with
        | .error e, _ => .error e
        | .ok _, .error e => .error e
        | .ok es, .ok es' => .ok (es ++ es')) ∧
    ∀ es, parseList a = .ok es →
      (∀ e ∈ es, Listed e) ∧
      (∀ (c : NodeConfig) (e : MalformedSeed),
        ({ c with seeds := es }).validate ≠ .error (.malformedSeed e)) ∧
      parseList (List.intercalate [','] es) = .ok es := by
  refine ⟨parseList_append a b, fun es h => ?_⟩
  have hlisted := listed_of_mem h
  exact ⟨hlisted, validate_ne_malformedSeed fun e he => (hlisted e he).described,
    parseList_intercalate hlisted⟩

theorem parseList_append_normal_spaced :
    let a : Text := " a:1:2 ,, [::1]:03:4\t,a:1:2"
    let b : Text := "b:5, c:6:7"
    let es : List Text := ["a:1:2", "[::1]:03:4", "a:1:2"]
    parseList (a ++ .char ',' :: b) = .error ⟨"b:5"⟩ ∧ parseList a = .ok es ∧
      (∀ e ∈ es, Listed e) ∧
      (∀ (c : NodeConfig) (e : MalformedSeed),
        ({ c with seeds := es }).validate ≠ .error (.malformedSeed e)) ∧
      parseList (List.intercalate [','] es) = .ok es := by
  intro a b es
  have ha : parseList a = .ok es := rfl
  have hb : parseList b = .error ⟨"b:5"⟩ := rfl
  obtain ⟨happ, hnormal⟩ := parseList_append_normal a b
  rw [ha, hb] at happ
  exact ⟨happ, ha, hnormal es ha⟩

end NodeSettings.Seed
