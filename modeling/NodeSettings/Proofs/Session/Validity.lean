import NodeSettings.Proofs.Config.Validity
import NodeSettings.Session

/-!
# Validity throughout a session

A session that begins with a loaded configuration has a valid one after every step, whatever the
command lines, the files and the bindings, and whether the steps succeed or fail. Only a step that
sets a field without a check could break this, and a directory that answers with something other
than literal addresses.
-/

namespace NodeSettings.Session

/-- A step that sets no field without a check; one that normalizes asks a directory of literal
addresses. -/
def Step.Checked : Step → Prop
  | .begin _ | .assign _ | .appendSeed _ | .updateHot _ | .applyProperties _ => False
  | .normalize directory => directory.Literal
  | _ => True

theorem valid_adopt {session : Session} (hv : session.config.Valid)
    {o : Outcome LoadFailure NodeConfig} (ho : ∀ c, o.result = .ok c → c.Valid) :
    (session.adopt o).1.config.Valid := by
  unfold adopt
  split
  · rename_i c hc
    exact ho c hc
  · exact hv

theorem valid_of_loadConfig {read : FileReader} {configDirectory : Option Text}
    {env : Environment} {arguments : List Text} {c : NodeConfig}
    (h : (NodeSettings.loadConfig read configDirectory env arguments).result = .ok c) :
    c.Valid := by
  obtain ⟨base, hbase, hc⟩ := Startup.loadConfig_eq_ok h
  have hv := valid_of_load hbase
  split at hc
  · rename_i o ho
    rw [hc]
    exact hv.apply ho
  · rw [hc]
    exact hv

theorem valid_step {session : Session} (hv : session.config.Valid) {s : Step} (hs : s.Checked) :
    (session.step s).1.config.Valid := by
  cases s with
  | begin | assign | appendSeed | updateHot | applyProperties => exact hs.elim
  | override arguments => exact hv.override arguments
  | normalize directory => exact hv.normalize hs
  | applyHot bindings => exact hv.applyHot bindings
  | load => exact valid_adopt hv fun _ h => valid_of_load h
  | loadConfig configDirectory arguments => exact valid_adopt hv fun _ h => valid_of_loadConfig h
  | reload path => exact hv.reload _ path
  | reloadLocated => exact hv.reload _ _
  | validate | remove | readProperties =>
    simp only [step]
    split <;> exact hv
  | get | getHot | holdHot | heldHot | write | setVariable | locate => exact hv

theorem valid_run {session : Session} (hv : session.config.Valid) {steps : List Step}
    (hs : ∀ s ∈ steps, s.Checked) : ∀ after ∈ session.run steps, after.2.Valid := by
  induction steps generalizing session with
  | nil =>
    intro after ha
    cases ha
  | cons s rest ih =>
    have hnext := valid_step hv (hs s List.mem_cons_self)
    intro after ha
    rcases List.mem_cons.mp ha with rfl | ha
    · exact hnext
    · exact ih hnext (fun s' hs' => hs s' (List.mem_cons_of_mem s hs')) after ha

/-- A loaded configuration passes the check, and so does the configuration after every step of a
session that begins with it. -/
theorem validate_throughout {read : FileReader} {location : Option Path} {session : Session}
    (hl : (NodeSettings.load read location).result = .ok session.config) {steps : List Step}
    (hs : ∀ s ∈ steps, s.Checked) :
    session.config.validate = .ok () ∧
      ∀ after ∈ session.run steps, after.2.validate = .ok () := by
  have hv := valid_of_load hl
  refine ⟨NodeConfig.validate_eq_ok_iff.mpr hv, fun after ha => ?_⟩
  exact NodeConfig.validate_eq_ok_iff.mpr (valid_run hv hs after ha)

theorem validate_throughout_mixed :
    let read : FileReader :=
      fun _ => .ok (Utf8.ofString "LOCAL_IP=node\nSEED_NODES=db:1:2, [::1]:3:4\n")
    let session : Session := { config := { localIp := "node", seeds := ["db:1:2", "[::1]:3:4"] } }
    let directory := Address.Directory.ofTable
      [("node", .addresses ["10.0.0.7"]), ("db", .addresses ["fe80::1%eth0"])]
    let steps : List Step :=
      [.normalize (.ofTable []), .override ["--meta_port", "9", "--seed_nodes=x"],
       .override ["--meta_port", "9"], .normalize directory, .reload (some "p"),
       .write "p" (.file (Utf8.ofString "MAX_REMOVED_LOG_SIZE=5")), .reload (some "p"),
       .applyHot [("MAX_CONCURRENT_CLIENT_NUM", "-1")]]
    (NodeSettings.load read (some ⟨[], ["p"]⟩)).result = .ok session.config ∧
      (∀ s ∈ steps, s.Checked) ∧ session.config.validate = .ok () ∧
      ∀ after ∈ session.run steps, after.2.validate = .ok () := by
  intro read session directory steps
  have hl : (NodeSettings.load read (some ⟨[], ["p"]⟩)).result = .ok session.config := by
    decide +kernel
  have hs : ∀ s ∈ steps, s.Checked := by
    simp only [steps, List.forall_mem_cons]
    have hempty : (Address.Directory.ofTable []).Literal := Address.literal_ofTable (by simp)
    have hfull : directory.Literal := Address.literal_ofTable (by decide +kernel)
    exact ⟨hempty, trivial, trivial, hfull, trivial, trivial, trivial, trivial, by simp⟩
  exact ⟨hl, hs, validate_throughout hl hs⟩

end NodeSettings.Session
