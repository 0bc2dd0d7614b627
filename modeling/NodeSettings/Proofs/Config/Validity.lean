import NodeSettings.Proofs.Normalization.Fixpoint
import NodeSettings.Proofs.Reload.Settings
import NodeSettings.Proofs.Seed.List
import NodeSettings.Proofs.Startup.Layers

/-!
# Valid configurations

The check passes exactly the valid configurations. Whatever is loaded is valid, and each operation
on a live configuration takes a valid one to a valid one: what it reads, it reads by rules that
are at least as strict as those of the check.
-/

namespace NodeSettings

/-- What the check of a configuration asks for. -/
structure NodeConfig.Valid (c : NodeConfig) : Prop where
  metaPort : isPort c.metaPort
  dataPort : isPort c.dataPort
  clientPort : isPort c.clientPort
  replicas : 1 ≤ c.replicas
  hot : ∀ field, 0 ≤ c.hot.get field
  queryTimeout : 0 ≤ c.queryTimeout
  maxLogs : 0 ≤ c.maxLogs
  logDeletionInterval : 0 ≤ c.logDeletionInterval
  localIp : c.localIp ≠ []
  seeds : ∀ e ∈ c.seeds, (Seed.parse? e).isSome

namespace NodeConfig

variable {c : NodeConfig}

/-! ### What each check asks for -/

theorem filter_ports_eq_nil_iff : (c.ports.filter fun p => !isPort p.2) = [] ↔
    isPort c.metaPort ∧ isPort c.dataPort ∧ isPort c.clientPort := by
  simp [ports]

theorem filter_amounts_eq_nil_iff : (c.amounts.filter fun a => a.2 < 0) = [] ↔
    (∀ field, 0 ≤ c.hot.get field) ∧ 0 ≤ c.queryTimeout ∧ 0 ≤ c.maxLogs ∧
      0 ≤ c.logDeletionInterval := by
  simp only [amounts, List.filter_eq_nil_iff, List.forall_mem_cons, decide_eq_true_eq, Int.not_lt]
  constructor
  · rintro ⟨hclients, htimeout, hquery, hsize, hlogs, hinterval, -⟩
    refine ⟨fun field => ?_, hquery, hlogs, hinterval⟩
    cases field with
    | maxClients => exact hclients
    | connectionTimeout => exact htimeout
    | maxRemovedLogSize => exact hsize
  · rintro ⟨hhot, hquery, hlogs, hinterval⟩
    exact ⟨hhot .maxClients, hhot .connectionTimeout, hquery, hhot .maxRemovedLogSize, hlogs,
      hinterval, by simp⟩

theorem filter_seeds_eq_nil_iff :
    (c.seeds.filter fun entry => (Seed.parse? entry).isNone) = [] ↔
      ∀ e ∈ c.seeds, (Seed.parse? e).isSome := by
  simp [List.filter_eq_nil_iff, Option.isSome_iff_ne_none]

theorem violations_eq_nil_iff : c.violations = [] ↔ c.Valid := by
  have hreplicas : (if c.replicas < 1 then [Violation.tooFewReplicas c.replicas] else []) = [] ↔
      1 ≤ c.replicas := by
    simp
  have hlocalIp : (if c.localIp.isEmpty then [Violation.emptyAddress] else []) = [] ↔
      c.localIp ≠ [] := by
    simp
  simp only [violations, List.append_eq_nil_iff, List.map_eq_nil_iff, filter_ports_eq_nil_iff,
    filter_amounts_eq_nil_iff, filter_seeds_eq_nil_iff, hreplicas, hlocalIp]
  constructor
  · rintro ⟨⟨⟨⟨⟨hmeta, hdata, hclient⟩, hr⟩, hhot, hquery, hlogs, hinterval⟩, hip⟩, hs⟩
    exact ⟨hmeta, hdata, hclient, hr, hhot, hquery, hlogs, hinterval, hip, hs⟩
  · intro h
    exact ⟨⟨⟨⟨⟨h.metaPort, h.dataPort, h.clientPort⟩, h.replicas⟩, h.hot, h.queryTimeout,
      h.maxLogs, h.logDeletionInterval⟩, h.localIp⟩, h.seeds⟩

end NodeConfig

theorem NodeConfig.validate_eq_ok_iff {c : NodeConfig} : c.validate = .ok () ↔ c.Valid := by
  rw [← violations_eq_nil_iff]
  unfold validate
  split
  · rename_i hv
    simp [hv]
  · rename_i v rest hv
    simp [hv]

/-! ### Loading -/

theorem valid_default : ({} : NodeConfig).Valid :=
  NodeConfig.validate_eq_ok_iff.mp (by decide +kernel)

theorem valid_of_load {read : FileReader} {location : Option Path} {c : NodeConfig}
    (h : (load read location).result = .ok c) : c.Valid := by
  rcases Startup.load_eq_ok h with ⟨-, rfl⟩ | ⟨-, -, -, -, -, hv⟩
  · exact valid_default
  · exact NodeConfig.validate_eq_ok_iff.mp hv

/-! ### Overriding -/

theorem isPort_of_assignAll {arguments : List Text} {given : CommandLine.Given}
    (h : CommandLine.Given.assignAll {} (CommandLine.occurrences arguments) = .ok given)
    (p : CommandLine.PortFlag) {n : Int} (hn : isPort n) : isPort ((given.port? p).getD n) := by
  have hp := CommandLine.port_of_parse h p n
  split at hp
  · rename_i raw _
    have hr := CommandLine.toOption_eq_some_iff.mp hp
    exact (CommandLine.readPort_eq_ok_iff.mp hr).2
  · rw [hp]
    exact hn

theorem isSome_of_parseList {raw : Text} {es : List Text} (h : Seed.parseList raw = .ok es) :
    ∀ e ∈ es, (Seed.parse? e).isSome := by
  intro e he
  obtain ⟨seed, hseed⟩ := (Seed.parseList_eq_ok_iff.mp h).2 e he
  rw [Seed.parse_eq_ok_iff.mp hseed]
  rfl

theorem isSome_of_readSeedList {list : Option Text} {seeds : Option (List Text)}
    (h : CommandLine.readSeedList list = .ok seeds) {es : List Text}
    (hes : ∀ e ∈ es, (Seed.parse? e).isSome) : ∀ e ∈ seeds.getD es, (Seed.parse? e).isSome := by
  unfold CommandLine.readSeedList at h
  split at h
  · cases h
    exact hes
  · split at h
    · rename_i hlist
      cases h
      exact isSome_of_parseList hlist
    · cases h

theorem NodeConfig.Valid.apply {c : NodeConfig} (hc : c.Valid) {arguments : List Text}
    {o : CommandLine.Overrides} (h : CommandLine.parse arguments = .ok o) : (o.apply c).Valid := by
  obtain ⟨given, hassign, hseeds, hmeta, hdata, hclient⟩ := CommandLine.given_of_parse h
  refine { hc with
    metaPort := ?_, dataPort := ?_, clientPort := ?_
    seeds := isSome_of_readSeedList hseeds hc.seeds }
  · show isPort (o.metaPort.getD c.metaPort)
    rw [hmeta]
    exact isPort_of_assignAll hassign .metaPort hc.metaPort
  · show isPort (o.dataPort.getD c.dataPort)
    rw [hdata]
    exact isPort_of_assignAll hassign .dataPort hc.dataPort
  · show isPort (o.clientPort.getD c.clientPort)
    rw [hclient]
    exact isPort_of_assignAll hassign .clientPort hc.clientPort

theorem NodeConfig.Valid.override {c : NodeConfig} (hc : c.Valid) (arguments : List Text) :
    (NodeSettings.override arguments c).1.Valid := by
  unfold NodeSettings.override
  cases hp : CommandLine.parse arguments with
  | error fault => exact hc
  | ok o => exact hc.apply hp

/-! ### Normalizing -/

theorem NodeConfig.Valid.normalize {c : NodeConfig} (hc : c.Valid)
    {directory : Address.Directory} (hd : directory.Literal) :
    (NodeSettings.normalize directory c).1.Valid := by
  rw [(Normalization.normalize_eq directory c).1]
  rcases Normalization.normalized_of_run hd c with ⟨-, -, hsame⟩ | ⟨-, hn, -, localIp, seeds, hnew⟩
  · rw [hsame]
    exact hc
  · rw [hnew] at hn ⊢
    refine { hc with localIp := Address.ne_nil_of_isLiteral hn.localIp, seeds := ?_ }
    intro e he
    obtain ⟨seed, hseed, -⟩ := hn.seeds e he
    simp [hseed]

/-! ### Reloading -/

theorem NodeConfig.Valid.applyHot {c : NodeConfig} (hc : c.Valid) (bindings : Bindings) :
    (NodeSettings.applyHot bindings c).1.Valid := by
  have ha := applyHot_cases bindings c
  cases hf : HotField.all.findSome? (HotField.failure? bindings) with
  | some e =>
    simp only [hf] at ha
    rw [ha.2]
    exact hc
  | none =>
    simp only [hf] at ha
    obtain ⟨hot, -, hnew, ht⟩ := ha
    rw [hnew]
    refine { hc with hot := fun field => ?_ }
    have hfield := ht field
    unfold HotField.Takes at hfield
    split at hfield
    · exact (HotField.read_eq_ok_iff.mp hfield).2
    · rw [hfield]
      exact hc.hot field

theorem NodeConfig.Valid.reload {c : NodeConfig} (hc : c.Valid) (read : FileReader)
    (path : Option Text) : (NodeSettings.reload read path c).1.Valid := by
  cases path with
  | none => exact hc
  | some path =>
    cases hp : readProperties read path with
    | error e =>
      rw [reload_of_unread hp]
      exact hc
    | ok bindings =>
      rw [reload_of_read hp]
      exact hc.applyHot bindings

end NodeSettings
