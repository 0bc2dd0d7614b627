import NodeSettings.Proofs.Seed.Entry

/-!
# Readings of an entry

An entry is read as a seed in at most one way: as its host, bare or in brackets, and two rows of
digits. It is refused exactly if it cannot be read so. A seed that was read is read back from its
own entry, but for one kind of host: where brackets hold a host that begins with a bracket itself
and has no colon, the entry is written without the outer pair and then describes no seed.
-/

namespace NodeSettings.Seed

/-- A way to read an entry: the form in which its host is written and the seed that it describes. -/
structure Reading (entry : Text) where
  form : Form
  seed : Seed
  wellFormed : seed.WellFormed
  admits : form.Admits seed.host
  written : form.write seed = entry

variable {entry : Text}

namespace Reading

theorem parse?_eq (r : Reading entry) : parse? entry = some r.seed := by
  have h := parse?_write r.wellFormed r.admits
  rw [r.written] at h
  exact h

/-- The form is seen from the first character. -/
theorem form_eq (r : Reading entry) :
    r.form = if entry.head? = some (.char '[') then .bracketed else .bare := by
  obtain ⟨form, seed, hw, ha, rfl⟩ := r
  cases form with
  | bare => rw [head?_write_bare hw, if_neg ha.2]
  | bracketed => rfl

theorem eq_of_reading (r r' : Reading entry) : r = r' := by
  have hform : r.form = r'.form := by rw [r.form_eq, r'.form_eq]
  have hseed : r.seed = r'.seed := by
    have h := r.parse?_eq
    rw [r'.parse?_eq] at h
    exact (Option.some_inj.mp h).symm
  cases r
  cases r'
  cases hform
  cases hseed
  rfl

end Reading

/-! ### What is read -/

theorem fields?_cases {fields : List Text} (h : fields? entry = some fields) :
    (∃ host ports, .char ']' ∉ host ∧
      entry = .char '[' :: (host ++ .char ']' :: .char ':' :: ports) ∧
      fields = host :: Text.splitOn ':' ports) ∨
    (entry.head? ≠ some (.char '[') ∧ fields = Text.splitOn ':' entry) := by
  unfold fields? at h
  split at h
  · rename_i rest
    split at h
    · rename_i bracket ports hd
      cases h
      refine .inl ⟨_, ports, Text.not_mem_takeWhile_ne ']' rest, ?_, rfl⟩
      rw [← Text.eq_of_dropWhile_ne hd]
    · cases h
  · rename_i hne
    cases h
    refine .inr ⟨fun hhead => ?_, rfl⟩
    obtain ⟨rest, rfl⟩ := List.head?_eq_some_iff.mp hhead
    exact hne rest rfl

theorem eq_of_splitOn_ports {ports metaPort dataPort : Text}
    (h : Text.splitOn ':' ports = [metaPort, dataPort]) :
    ports = metaPort ++ .char ':' :: dataPort := by
  have hjoin := Text.intercalate_splitOn ':' ports
  rw [h, List.intercalate_cons_cons, List.intercalate_singleton] at hjoin
  simpa using hjoin.symm

theorem eq_of_splitOn_entry {host metaPort dataPort : Text}
    (h : Text.splitOn ':' entry = [host, metaPort, dataPort]) :
    entry = host ++ .char ':' :: (metaPort ++ .char ':' :: dataPort) := by
  have hjoin := Text.intercalate_splitOn ':' entry
  rw [h, List.intercalate_cons_cons, List.intercalate_cons_cons, List.intercalate_singleton]
    at hjoin
  simpa using hjoin.symm

theorem exists_reading_of_parse? {seed : Seed} (h : parse? entry = some seed) :
    ∃ r : Reading entry, r.seed = seed := by
  obtain ⟨hf, hw⟩ := parse?_eq_some_iff.mp h
  rcases fields?_cases hf with ⟨host, ports, hhost, hentry, hfields⟩ | ⟨hhead, hfields⟩
  · rw [List.cons.injEq] at hfields
    obtain ⟨rfl, hports⟩ := hfields
    have hwritten : Form.bracketed.write seed = entry := by
      rw [hentry, Form.write, ← eq_of_splitOn_ports hports.symm]
    exact ⟨⟨.bracketed, seed, hw, hhost, hwritten⟩, rfl⟩
  · have hwritten : Form.bare.write seed = entry := (eq_of_splitOn_entry hfields.symm).symm
    have hcolon : .char ':' ∉ seed.host := by
      apply Text.not_mem_of_mem_splitOn (s := entry)
      rw [← hfields]
      exact List.mem_cons_self
    rw [← hwritten, head?_write_bare hw] at hhead
    exact ⟨⟨.bare, seed, hw, ⟨hcolon, hhead⟩, hwritten⟩, rfl⟩

theorem parse_eq_ok_iff {seed : Seed} : parse entry = .ok seed ↔ parse? entry = some seed := by
  cases h : parse? entry <;> simp [parse, h]

theorem parse_eq_error_iff {e : MalformedSeed} :
    parse entry = .error e ↔ parse? entry = none ∧ e = ⟨entry⟩ := by
  cases h : parse? entry <;> simp [parse, h, eq_comm]

/-- An entry is read exactly as its one reading says, and refused exactly if it has none. -/
theorem parse_by_reading (entry : Text) :
    (∀ seed, parse entry = .ok seed ↔ ∃ r : Reading entry, r.seed = seed) ∧
      Subsingleton (Reading entry) ∧
      ∀ e, parse entry = .error e ↔ ¬ Nonempty (Reading entry) ∧ e = ⟨entry⟩ := by
  refine ⟨fun seed => ?_, ⟨Reading.eq_of_reading⟩, fun e => ?_⟩
  · rw [parse_eq_ok_iff]
    constructor
    · exact exists_reading_of_parse?
    · rintro ⟨r, rfl⟩
      exact r.parse?_eq
  · have hnone : parse? entry = none ↔ ¬ Nonempty (Reading entry) := by
      rw [Option.eq_none_iff_forall_ne_some]
      constructor
      · rintro h ⟨r⟩
        exact h r.seed r.parse?_eq
      · intro h seed hs
        obtain ⟨r, -⟩ := exists_reading_of_parse? hs
        exact h ⟨r⟩
    rw [parse_eq_error_iff, hnone]

/-! ### Writing again what was read -/

/-- A host that is told from its ports in brackets alone, but is written without them as it has no
colon. -/
def NeedsBrackets (host : Text) : Prop := .char ':' ∉ host ∧ host.head? = some (.char '[')

instance (host : Text) : Decidable (NeedsBrackets host) :=
  inferInstanceAs (Decidable (.char ':' ∉ host ∧ host.head? = some (.char '[')))

theorem entry_of_needsBrackets {seed : Seed} (hn : NeedsBrackets seed.host) :
    seed.entry = Form.bare.write seed := by
  rw [← Form.write_ofHost, Form.ofHost, if_neg hn.1]

namespace Reading

theorem separable (r : Reading entry) (hn : ¬ NeedsBrackets r.seed.host) :
    Separable r.seed.host := by
  have ha := r.admits
  by_cases hc : .char ':' ∈ r.seed.host
  · rw [Separable, if_pos hc]
    cases hf : r.form with
    | bare =>
      rw [hf] at ha
      exact absurd hc ha.1
    | bracketed =>
      rw [hf] at ha
      exact ha
  · rw [Separable, if_neg hc]
    exact fun hb => hn ⟨hc, hb⟩

theorem closing_not_mem (r : Reading entry) (hn : NeedsBrackets r.seed.host) :
    .char ']' ∉ r.seed.entry := by
  have hw := r.wellFormed
  have hhost : .char ']' ∉ r.seed.host := by
    have ha := r.admits
    cases hf : r.form with
    | bare =>
      rw [hf] at ha
      exact absurd hn.2 ha.2
    | bracketed =>
      rw [hf] at ha
      exact ha
  have hmeta := Text.not_mem_of_isDigits hw.metaPort (show Text.isDigit ']' = false by decide)
  have hdata := Text.not_mem_of_isDigits hw.dataPort (show Text.isDigit ']' = false by decide)
  rw [entry_of_needsBrackets hn, Form.write]
  simp [hhost, hmeta, hdata]

/-- An entry that begins with a bracket holds the one that closes it. -/
theorem closing_mem (r : Reading entry) (hhead : entry.head? = some (.char '[')) :
    .char ']' ∈ entry := by
  have hform : r.form = .bracketed := by rw [r.form_eq, if_pos hhead]
  rw [← r.written, hform, Form.write]
  simp

theorem parse?_entry_of_needsBrackets (r : Reading entry) (hn : NeedsBrackets r.seed.host) :
    parse? r.seed.entry = none := by
  have hhead : r.seed.entry.head? = some (.char '[') := by
    rw [entry_of_needsBrackets hn, head?_write_bare r.wellFormed, hn.2]
  rw [Option.eq_none_iff_forall_ne_some]
  intro seed hs
  obtain ⟨again, -⟩ := exists_reading_of_parse? hs
  exact r.closing_not_mem hn (again.closing_mem hhead)

end Reading

/-- The entry of a seed that was read is read as that seed again, unless its host needs brackets:
then it is refused. -/
theorem parse_entry_of_parse {seed : Seed} (h : parse entry = .ok seed) :
    parse seed.entry
      = if NeedsBrackets seed.host then .error ⟨seed.entry⟩ else .ok seed := by
  obtain ⟨r, rfl⟩ := exists_reading_of_parse? (parse_eq_ok_iff.mp h)
  split
  · rename_i hn
    exact parse_eq_error_iff.mpr ⟨r.parse?_entry_of_needsBrackets hn, rfl⟩
  · rename_i hn
    exact parse_eq_ok_iff.mpr (parse?_entry r.wellFormed (r.separable hn))

theorem parse_entry_of_parse_brackets :
    let entry : Text := "[[a:]:01:2"
    let seed : Seed := ⟨"[a:", "01", "2"⟩
    parse entry = .ok seed ∧ ¬ NeedsBrackets seed.host ∧ parse seed.entry = .ok seed := by
  intro entry seed
  have h : parse entry = .ok seed := rfl
  have hn : ¬ NeedsBrackets seed.host := by decide
  have hback := parse_entry_of_parse h
  rw [if_neg hn] at hback
  exact ⟨h, hn, hback⟩

/-- An entry is not always read back: brackets around a host that begins with one are lost. -/
theorem bracket_in_brackets_refused :
    ¬ ∀ (entry : Text) (seed : Seed), parse entry = .ok seed → parse seed.entry = .ok seed := by
  intro h
  have hread : parse "[[a]:1:2" = .ok ⟨"[a", "1", "2"⟩ := rfl
  have hrefused : parse (entry ⟨"[a", "1", "2"⟩) = .error ⟨"[a:1:2"⟩ := rfl
  have hback := h _ _ hread
  rw [hrefused] at hback
  cases hback

end NodeSettings.Seed
