import NodeSettings.Startup
import Mathlib.Control.Monad.Basic

/-!
# Starts with a refused command line

A node that is started with a command line that is refused starts like a node without one: it ends
the same way, asks for the same hosts and resolves the same configuration. Only the two notices on
the refusal tell the starts apart. None of the flags in such a command line, however well formed,
reaches the configuration.
-/

namespace NodeSettings

/-- A notice that says what was made of the command line. -/
def Notice.onCommandLine : Notice → Bool
  | .overridesRefused .. | .portOverridden .. | .seedsOverridden _ | .overridesIgnored
  | .overridesSkipped => true
  | _ => false

namespace Startup

/-! ### Overriding -/

theorem parse_of_override {arguments : List Text} {c : NodeConfig} {fault : CommandLine.Fault}
    (h : (override arguments c).2.result = .error fault) :
    CommandLine.parse arguments = .error fault := by
  unfold override at h
  split at h
  · rename_i e hp
    cases h
    exact hp
  · cases h

theorem overrideOrKeep_of_refused {arguments : List Text} {fault : CommandLine.Fault}
    (h : CommandLine.parse arguments = .error fault) (ignored : Notice) (c : NodeConfig) :
    overrideOrKeep ignored arguments c = (c, [.overridesRefused fault arguments, ignored]) := by
  simp only [overrideOrKeep, override, h, List.cons_append, List.nil_append]

theorem overrideOrKeep_nil (ignored : Notice) (c : NodeConfig) :
    overrideOrKeep ignored [] c = (c, []) := rfl

/-! ### Starting from what was loaded -/

/-- The notices of finding and loading the configuration. -/
def loadingNotices (read : FileReader) (env : Environment) : List Notice :=
  (findLocation none none env).2 ++ (load read (findLocation none none env).1).notices

/-- A start with a configuration that was loaded announces what the command line makes of it. -/
theorem start_of_loaded {read : FileReader} {env : Environment} {c : NodeConfig}
    (h : (load read (findLocation none none env).1).result = .ok c)
    (directory : Address.Directory) (arguments : List Text) :
    start read directory env arguments
      = (announce directory (overrideOrKeep .overridesSkipped arguments c).1).after
          (loadingNotices read env ++ (overrideOrKeep .overridesSkipped arguments c).2) := by
  simp only [start, Outcome.after, h, loadingNotices]

/-- A start without a configuration does not come to its command line. -/
theorem start_of_not_loaded {read : FileReader} {env : Environment} {e : LoadFailure}
    (h : (load read (findLocation none none env).1).result = .error e)
    (directory : Address.Directory) (arguments : List Text) :
    start read directory env arguments = start read directory env [] ∧
      (start read directory env arguments).result ≠ .ok .started := by
  simp only [start, Outcome.after, h]
  cases e <;> simp

theorem getLast?_announce {directory : Address.Directory} {c : NodeConfig}
    (h : (announce directory c).result = .ok .started) :
    (normalize directory c).2.result = .ok () ∧
      (announce directory c).notices.getLast? = some (.resolved (normalize directory c).1) := by
  unfold announce at h ⊢
  dsimp only at h ⊢
  split at h
  · cases h
  · rename_i hr
    exact ⟨hr, by simp⟩

theorem getLast?_after {ε α : Type} {o : Outcome ε α} {last : Notice}
    (h : o.notices.getLast? = some last) (notices : List Notice) :
    (o.after notices).notices.getLast? = some last := by
  simp only [Outcome.after, List.getLast?_append, h, Option.some_or]

/-! ### Two starts -/

/-- Two starts that no one can tell apart but by what they say about their command lines. -/
structure Alike (o o' : Outcome LoadFailure ExitStatus) : Prop where
  result : o.result = o'.result
  hosts : o.hosts = o'.hosts
  resolved : o.result = .ok .started →
    ∃ c, o.notices.getLast? = some (.resolved c) ∧ o'.notices.getLast? = some (.resolved c)
  notices : o.notices.filter (!·.onCommandLine) = o'.notices.filter (!·.onCommandLine)

/-- Starts that announce the same configuration, after notices that differ on the command line
only. -/
theorem alike_announce (directory : Address.Directory) (c : NodeConfig)
    {before before' : List Notice}
    (h : before.filter (!·.onCommandLine) = before'.filter (!·.onCommandLine)) :
    Alike ((announce directory c).after before) ((announce directory c).after before') where
  result := rfl
  hosts := rfl
  resolved := by
    intro hs
    obtain ⟨-, hlast⟩ := getLast?_announce hs
    exact ⟨_, getLast?_after hlast before, getLast?_after hlast before'⟩
  notices := by
    simp only [Outcome.after, List.filter_append, h]

theorem alike_of_refused (read : FileReader) (directory : Address.Directory) (env : Environment)
    {arguments : List Text} {c : NodeConfig} {fault : CommandLine.Fault}
    (h : (override arguments c).2.result = .error fault) :
    Alike (start read directory env arguments) (start read directory env []) := by
  have hp := parse_of_override h
  cases hl : (load read (findLocation none none env).1).result with
  | error e =>
    obtain ⟨hsame, hnot⟩ := start_of_not_loaded hl directory arguments
    exact ⟨by rw [hsame], by rw [hsame], fun hs => absurd hs hnot, by rw [hsame]⟩
  | ok loaded =>
    rw [start_of_loaded hl, start_of_loaded hl, overrideOrKeep_of_refused hp, overrideOrKeep_nil]
    apply alike_announce
    simp [Notice.onCommandLine]

theorem alike_of_refused_stray :
    let read : FileReader := fun _ => .ok (Utf8.ofString "LOCAL_IP=node\nSEED_NODES=seed:1:2\n")
    let directory : Address.Directory :=
      .ofTable [("node", .addresses ["::1", "10.0.0.1"]), ("seed", .addresses ["10.0.0.2"])]
    let env : Environment :=
      fun name => if name = ("CLUSTER_CONF" : Text) then some "conf" else none
    let arguments : List Text :=
      ["--meta_port=1", "--seed_nodes=other:3:4", "stray", "--data_port=2"]
    (override arguments {}).2.result = .error (.unrecognized ["stray"]) ∧
      Alike (start read directory env arguments) (start read directory env []) ∧
      (start read directory env arguments).result = .ok .started ∧
      (start read directory env arguments).hosts
        = (["node", "seed"] : List Text) := by
  intro read directory env arguments
  have h : (override arguments {}).2.result = .error (.unrecognized ["stray"]) := by
    decide +kernel
  have hrun : (start read directory env arguments).result = .ok .started ∧
      (start read directory env arguments).hosts = (["node", "seed"] : List Text) := by
    decide +kernel
  exact ⟨h, alike_of_refused read directory env h, hrun⟩

end Startup

end NodeSettings
