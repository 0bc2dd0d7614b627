import NodeSettings.Proofs.Text.Cut
import NodeSettings.Seed.Basic

/-!
# Reading an entry back

An entry is written in one of two forms, with its host bare or in brackets, and either form is read
back where it tells the host from the ports. So a seed is read back from its own entry: a host with
a colon must hold no closing bracket, and one without must not begin with an opening one. What is
read has two rows of digits as its ports.
-/

namespace NodeSettings.Seed

/-- A seed whose fields are what a seed entry may hold. -/
structure WellFormed (seed : Seed) : Prop where
  host_ne_nil : seed.host ≠ []
  metaPort : Text.isDigits seed.metaPort
  dataPort : Text.isDigits seed.dataPort

/-- A host that is told from the ports that follow it. -/
def Separable (host : Text) : Prop :=
  if .char ':' ∈ host then .char ']' ∉ host else host.head? ≠ some (.char '[')

inductive Form where
  | bare
  | bracketed
  deriving DecidableEq, Repr

namespace Form

def write (seed : Seed) : Form → Text
  | .bare => seed.host ++ .char ':' :: (seed.metaPort ++ .char ':' :: seed.dataPort)
  | .bracketed =>
    .char '[' :: (seed.host ++ .char ']' :: .char ':' ::
      (seed.metaPort ++ .char ':' :: seed.dataPort))

/-- Whether a host that is written in a form is told from the ports that follow it. -/
def Admits (host : Text) : Form → Prop
  | .bare => .char ':' ∉ host ∧ host.head? ≠ some (.char '[')
  | .bracketed => .char ']' ∉ host

/-- The form in which an entry is written for a seed with the host. -/
def ofHost (host : Text) : Form := if .char ':' ∈ host then .bracketed else .bare

theorem write_ofHost (seed : Seed) : (ofHost seed.host).write seed = seed.entry := by
  by_cases hc : .char ':' ∈ seed.host
  · simp [ofHost, write, entry, bracketedHost, hc]
  · simp [ofHost, write, entry, bracketedHost, hc]

theorem admits_ofHost_iff {host : Text} : (ofHost host).Admits host ↔ Separable host := by
  by_cases hc : .char ':' ∈ host
  · simp [ofHost, Admits, Separable, hc]
  · simp [ofHost, Admits, Separable, hc]

end Form

theorem parse?_eq_some_iff {entry : Text} {seed : Seed} :
    parse? entry = some seed ↔
      fields? entry = some [seed.host, seed.metaPort, seed.dataPort] ∧ seed.WellFormed := by
  constructor
  · intro h
    unfold parse? at h
    split at h
    · rename_i hf
      split at h
      · rename_i hc
        simp only [Bool.and_eq_true, Bool.not_eq_true', List.isEmpty_eq_false_iff] at hc
        cases h
        exact ⟨hf, hc.1.1, hc.1.2, hc.2⟩
      · cases h
    · cases h
  · rintro ⟨hf, hw⟩
    have hn : seed.host.isEmpty = false := by simp [hw.host_ne_nil]
    simp [parse?, hf, hn, hw.metaPort, hw.dataPort]

theorem wellFormed_of_parse? {entry : Text} {seed : Seed} (h : parse? entry = some seed) :
    seed.WellFormed :=
  (parse?_eq_some_iff.mp h).2

theorem splitOn_ports {seed : Seed} (hw : seed.WellFormed) :
    Text.splitOn ':' (seed.metaPort ++ .char ':' :: seed.dataPort)
      = [seed.metaPort, seed.dataPort] := by
  have hm := Text.not_mem_of_isDigits hw.metaPort (show Text.isDigit ':' = false by decide)
  have hd := Text.not_mem_of_isDigits hw.dataPort (show Text.isDigit ':' = false by decide)
  rw [Text.splitOn_append_cons_of_not_mem hm, Text.splitOn_of_not_mem hd]

theorem fields?_of_head? {entry : Text} (h : entry.head? ≠ some (.char '[')) :
    fields? entry = some (Text.splitOn ':' entry) := by
  cases entry with
  | nil => rfl
  | cons c rest =>
    have hc : c ≠ '[' := by simpa using h
    simp [fields?, hc]

theorem fields?_bracketed {host : Text} (h : .char ']' ∉ host) (ports : Text) :
    fields? (.char '[' :: (host ++ .char ']' :: .char ':' :: ports))
      = some (host :: Text.splitOn ':' ports) := by
  simp only [fields?, Text.takeWhile_ne_append h, Text.dropWhile_ne_append h]

theorem head?_write_bare {seed : Seed} (hw : seed.WellFormed) :
    (Form.bare.write seed).head? = seed.host.head? := by
  obtain ⟨c, rest, hr⟩ := List.exists_cons_of_ne_nil hw.host_ne_nil
  rw [Form.write, hr]
  rfl

/-- What is written in a form that admits the host is read back. -/
theorem parse?_write {form : Form} {seed : Seed} (hw : seed.WellFormed)
    (ha : form.Admits seed.host) : parse? (form.write seed) = some seed := by
  refine parse?_eq_some_iff.mpr ⟨?_, hw⟩
  cases form with
  | bracketed => rw [Form.write, fields?_bracketed ha, splitOn_ports hw]
  | bare =>
    have hh : (Form.bare.write seed).head? ≠ some (.char '[') := by
      rw [head?_write_bare hw]
      exact ha.2
    rw [fields?_of_head? hh, Form.write, Text.splitOn_append_cons_of_not_mem ha.1,
      splitOn_ports hw]

/-- A well formed seed with a separable host is read back from its entry. -/
theorem parse?_entry {seed : Seed} (hw : seed.WellFormed) (hs : Separable seed.host) :
    parse? seed.entry = some seed := by
  rw [← Form.write_ofHost]
  exact parse?_write hw (Form.admits_ofHost_iff.mpr hs)

end NodeSettings.Seed
