import NodeSettings.Proofs.Normalization.Lookups

/-!
# Normalized configurations

Where a directory answers with literal addresses only, a configuration that was normalized has
literal hosts throughout, each entry with the ports of the entry it came from. Normalizing it once
more asks for nothing and changes nothing, whatever the directory.
-/

namespace NodeSettings.Normalization

open Address

/-- A configuration whose hosts are all literal. -/
structure Normalized (c : NodeConfig) : Prop where
  localIp : isLiteral c.localIp
  seeds : ∀ e ∈ c.seeds, ∃ seed, Seed.parse? e = some seed ∧ isLiteral seed.host

/-- An entry that became one with a literal host and kept the text of its ports. -/
def PortsKept (entry entry' : Text) : Prop :=
  ∃ seed seed', Seed.parse? entry = some seed ∧ Seed.parse? entry' = some seed' ∧
    isLiteral seed'.host ∧ seed'.metaPort = seed.metaPort ∧ seed'.dataPort = seed.dataPort

/-! ### What a directory of literal addresses yields -/

theorem mem_of_standsFor {directory : Directory} {host address : Text}
    (h : StandsFor directory host address) (hl : ¬ isLiteral host) :
    ∃ list, directory host = .addresses list ∧ address ∈ list := by
  rw [StandsFor, if_neg hl] at h
  obtain ⟨list, hd, hfirst | ⟨-, hhead⟩⟩ := h
  · exact ⟨list, hd, List.mem_of_find?_eq_some hfirst⟩
  · exact ⟨list, hd, List.mem_of_head? hhead⟩

theorem literal_of_mem {directory : Directory} (hd : directory.Literal) {host address : Text}
    {list : List Text} (hlist : directory host = .addresses list) (hm : address ∈ list) :
    isLiteral address ∧ .char ']' ∉ address := by
  have hh := hd host
  rw [hlist] at hh
  exact hh address hm

theorem isLiteral_of_standsFor {directory : Directory} (hd : directory.Literal)
    {host address : Text} (h : StandsFor directory host address) : isLiteral address := by
  by_cases hl : isLiteral host
  · rw [StandsFor, if_pos hl] at h
    exact h ▸ hl
  · obtain ⟨list, hlist, hm⟩ := mem_of_standsFor h hl
    exact (literal_of_mem hd hlist hm).1

theorem portsKept_of_rewritten {directory : Directory} (hd : directory.Literal)
    {entry entry' : Text} (h : Rewritten directory entry entry') : PortsKept entry entry' := by
  obtain ⟨seed, hseed, h⟩ := h
  by_cases hl : isLiteral seed.host
  · rw [if_pos hl] at h
    subst h
    exact ⟨seed, seed, hseed, hseed, hl, rfl, rfl⟩
  · rw [if_neg hl] at h
    obtain ⟨address, hst, rfl⟩ := h
    have hlit := isLiteral_of_standsFor hd hst
    obtain ⟨list, hlist, hm⟩ := mem_of_standsFor hst hl
    have hbracket := (literal_of_mem hd hlist hm).2
    have hw := Seed.wellFormed_of_parse? hseed
    have hmoved : (seed.withHost address).WellFormed :=
      ⟨ne_nil_of_isLiteral hlit, hw.metaPort, hw.dataPort⟩
    have hback := Seed.parse?_entry hmoved (separable_of_isLiteral hlit hbracket)
    rw [entry_withHost] at hback
    exact ⟨seed, seed.withHost address, hseed, hback, hlit, rfl, rfl⟩

theorem literal_seeds_of_portsKept {es es' : List Text} (h : List.Forall₂ PortsKept es es') :
    ∀ e ∈ es', ∃ seed, Seed.parse? e = some seed ∧ isLiteral seed.host := by
  induction h with
  | nil => simp
  | cons hkept _ ih =>
    intro e he
    rcases List.mem_cons.mp he with rfl | he
    · obtain ⟨-, seed', -, hseed', hlit, -⟩ := hkept
      exact ⟨seed', hseed', hlit⟩
    · exact ih e he

/-- A configuration is left as it was or is normalized. -/
theorem normalized_of_run {directory : Directory} (hd : directory.Literal) (c : NodeConfig) :
    (∃ e, (run directory c).2.result = .error e ∧ (run directory c).1 = c) ∨
      (run directory c).2.result = .ok () ∧ Normalized (run directory c).1 ∧
        List.Forall₂ PortsKept c.seeds (run directory c).1.seeds ∧
        ∃ localIp seeds, (run directory c).1 = { c with localIp, seeds } := by
  have hrun := (run_cases directory c).2
  cases hff : firstFailure? directory (needs c) with
  | some e =>
    simp only [hff] at hrun
    exact .inl ⟨e, hrun⟩
  | none =>
    simp only [hff] at hrun
    obtain ⟨localIp, seeds, hip, hall, hok, hc⟩ := hrun
    have hkept : List.Forall₂ PortsKept c.seeds seeds :=
      hall.imp fun _ _ hr => portsKept_of_rewritten hd hr
    rw [hc]
    exact .inr ⟨hok, ⟨isLiteral_of_standsFor hd hip, literal_seeds_of_portsKept hkept⟩, hkept,
      localIp, seeds, rfl⟩

/-! ### A normalized configuration is left alone -/

theorem address_of_isLiteral (directory : Directory) {host : Text} (h : isLiteral host) :
    address directory host = .ofExcept (.ok host) := if_pos h

theorem entries_of_literal (directory : Directory) {es : List Text}
    (h : ∀ e ∈ es, ∃ seed, Seed.parse? e = some seed ∧ isLiteral seed.host) :
    entries directory es = .ofExcept (.ok es) := by
  induction es with
  | nil => rfl
  | cons e rest ih =>
    obtain ⟨seed, hseed, hl⟩ := h e List.mem_cons_self
    have he : entry directory e = .ofExcept (.ok e) := by simp only [entry, hseed, hl, if_true]
    have hrest := ih fun e' he' => h e' (List.mem_cons_of_mem e he')
    simp only [entries, he, hrest]
    rfl

theorem run_of_normalized (directory : Directory) {c : NodeConfig} (h : Normalized c) :
    run directory c = (c, .ofExcept (.ok ())) := by
  have hfound : literals directory c = .ofExcept (.ok (c.localIp, c.seeds)) := by
    simp only [literals, address_of_isLiteral directory h.localIp,
      entries_of_literal directory h.seeds]
    rfl
  simp only [run, hfound]
  rfl

/-- Normalizing reaches a fixed point at once: the hosts are literal, the ports are kept, and
normalizing again asks for nothing and changes nothing. -/
theorem normalize_fixpoint {directory : Directory} (hd : directory.Literal) {c c' : NodeConfig}
    (h : (normalize directory c).2.result = .ok ()) (hc : (normalize directory c).1 = c') :
    isLiteral c'.localIp ∧ List.Forall₂ PortsKept c.seeds c'.seeds ∧
      ∀ other : Directory, (normalize other c').2.result = .ok () ∧
        (normalize other c').1 = c' ∧ (normalize other c').2.hosts = [] := by
  obtain ⟨hconfig, hresult, -⟩ := normalize_eq directory c
  subst hc
  rw [hconfig]
  rw [hresult] at h
  rcases normalized_of_run hd c with ⟨e, he, -⟩ | ⟨-, hn, hkept, -⟩
  · rw [h] at he
    cases he
  · refine ⟨hn.localIp, hkept, fun other => ?_⟩
    simp only [normalize, run_of_normalized other hn]
    exact ⟨rfl, rfl, rfl⟩

theorem normalize_fixpoint_zoned :
    let directory := Directory.ofTable [("node", .addresses ["fd00::7", "10.0.0.7"]),
      ("db", .addresses ["fe80::1%eth0"])]
    let c : NodeConfig := { localIp := "node", seeds := ["db:1:02", "[::1]:3:4"] }
    let c' : NodeConfig :=
      { localIp := "10.0.0.7", seeds := ["[fe80::1%eth0]:1:02", "[::1]:3:4"] }
    directory.Literal ∧ (normalize directory c).2.result = .ok () ∧
      (normalize directory c).1 = c' ∧
      isLiteral c'.localIp ∧ List.Forall₂ PortsKept c.seeds c'.seeds ∧
      ∀ other : Directory, (normalize other c').2.result = .ok () ∧
        (normalize other c').1 = c' ∧ (normalize other c').2.hosts = [] := by
  intro directory c c'
  have hd : directory.Literal := literal_ofTable (by decide +kernel)
  have h : (normalize directory c).2.result = .ok () := by decide +kernel
  have hc : (normalize directory c).1 = c' := by decide +kernel
  exact ⟨hd, h, hc, normalize_fixpoint hd h hc⟩

end NodeSettings.Normalization
