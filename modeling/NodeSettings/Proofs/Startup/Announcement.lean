import NodeSettings.Proofs.Dump.Reading
import NodeSettings.Proofs.Normalization.Fixpoint
import NodeSettings.Proofs.Property.Value
import NodeSettings.Proofs.Startup.Layers
import NodeSettings.Proofs.Startup.Refusal

/-!
# What a start announces

The last message of a node that starts shows the configuration that was resolved, in characters of
the basic range: after its first line it is JSON, and holds every property with its value. No
number is too long to be read back, as none is longer than the numbers that are read from the file
and the command line. So starts that resolve different configurations announce different messages.
A pair of halves is shown as the one character that it stands for, so all this is said of
configurations in whose texts no high half stands right before a low one.
-/

namespace NodeSettings

/-! ### Numbers that are read back -/

theorem Kind.fits_of_read {k : Kind} {raw : Text} {v : k.Value} (h : k.read raw = .ok v) :
    k.Fits v := by
  cases k with
  | integer => exact Decimal.natAbs_lt_of_parse (readInteger_eq_ok_iff.mp h)
  | _ => trivial

theorem Kind.fits_integer {n : Int} (h : n.natAbs < 10 ^ 9) : Kind.integer.Fits n :=
  Nat.lt_of_lt_of_le h (Nat.pow_le_pow_right (by decide) (by decide))

theorem fits_builtIn : ({} : NodeConfig).Fits := by
  intro p
  cases p with
  | hot field => cases field <;> exact Kind.fits_integer (by decide)
  | localIp | callCompression | batchCatchUp | autoCreateSchema | consistency | seeds => trivial
  | _ => exact Kind.fits_integer (by decide)

theorem CommandLine.fits_of_readOverride? {p : Property} {raw : Text} {v : p.kind.Value}
    (h : readOverride? p raw = some v) : p.kind.Fits v := by
  have hport : ∀ {flag : PortFlag} {n : Int}, (readPort flag raw).toOption = some n →
      Kind.integer.Fits n := by
    intro flag n hn
    exact Decimal.natAbs_lt_of_parse (readPort_eq_ok_iff.mp (toOption_eq_some_iff.mp hn)).1
  cases p with
  | metaPort => exact hport h
  | dataPort => exact hport h
  | clientPort => exact hport h
  | seeds => trivial
  | _ => cases h

namespace Startup

theorem fits_of_load {read : FileReader} {location : Option Path} {c : NodeConfig}
    (h : (load read location).result = .ok c) : c.Fits := by
  intro p
  rcases load_eq_ok h with ⟨-, rfl⟩ | ⟨-, bindings, -, -, happly, -⟩
  · exact fits_builtIn p
  · have ht := Overlay.takes_of_apply happly p
    unfold Overlay.Takes at ht
    split at ht
    · exact Kind.fits_of_read ht
    · rw [ht]
      exact fits_builtIn p

theorem fits_overrideOrKeep {c : NodeConfig} (h : c.Fits) (ignored : Notice)
    (arguments : List Text) : (overrideOrKeep ignored arguments c).1.Fits := by
  intro p
  simp only [overrideOrKeep, override]
  cases hp : CommandLine.parse arguments with
  | error fault => exact h p
  | ok overrides =>
    have hget := CommandLine.get_apply_of_parse hp c p
    split at hget
    · exact CommandLine.fits_of_readOverride? hget
    · simp only [hget]
      exact h p

theorem fits_normalize {c : NodeConfig} (h : c.Fits) (directory : Address.Directory) :
    (normalize directory c).1.Fits := by
  rw [(Normalization.normalize_eq directory c).1]
  have hrun := (Normalization.run_cases directory c).2
  split at hrun
  · rw [hrun.2]
    exact h
  · obtain ⟨localIp, seeds, -, -, -, hc⟩ := hrun
    rw [hc]
    intro p
    cases p with
    | localIp | seeds => trivial
    | _ => exact h _

/-! ### Starts -/

/-- A start of a node: what it reads and how it is called. -/
structure Start where
  read : FileReader
  directory : Address.Directory
  env : Environment
  arguments : List Text

namespace Start

def outcome (s : Start) : Outcome LoadFailure ExitStatus :=
  start s.read s.directory s.env s.arguments

/-- The configuration that is loaded, overridden and normalized. -/
def resolved? (s : Start) : Option NodeConfig :=
  match (load s.read (findLocation none none s.env).1).result with
  | .error _ => none
  | .ok c =>
    let (c, o) := normalize s.directory (overrideOrKeep .overridesSkipped s.arguments c).1
    o.result.toOption.map fun () => c

def lastMessage? (s : Start) : Option Text := s.outcome.notices.getLast?.map Notice.message

/-- A start that ends as started has resolved a configuration, and announces it last. -/
theorem resolved_of_started {s : Start} (h : s.outcome.result = .ok .started) :
    ∃ c, s.resolved? = some c ∧ c.Fits ∧
      s.lastMessage? = some (Notice.resolved c).message := by
  cases hl : (load s.read (findLocation none none s.env).1).result with
  | error e => exact absurd h (start_of_not_loaded hl s.directory s.arguments).2
  | ok loaded =>
    have hstart := start_of_loaded hl s.directory s.arguments
    rw [outcome, hstart] at h
    obtain ⟨hok, hlast⟩ := getLast?_announce h
    have hfits := fits_normalize
      (fits_overrideOrKeep (fits_of_load hl) .overridesSkipped s.arguments) s.directory
    refine ⟨_, ?_, hfits, ?_⟩
    · simp only [resolved?, hl, hok]
      rfl
    · rw [lastMessage?, outcome, hstart, getLast?_after hlast]
      rfl

end Start

/-! ### The message -/

/-- What follows the first line of a text. -/
def afterFirstLine (s : Text) : Text := (s.dropWhile (· ≠ .char '\n')).drop 1

theorem message_resolved (c : NodeConfig) :
    (Notice.resolved c).message
      = ("Resolved cluster configuration:" : Text) ++ .char '\n' :: c.dump := by
  have hline : ("Resolved cluster configuration:\n" : Text)
      = ("Resolved cluster configuration:" : Text) ++ [.char '\n'] := by decide +kernel
  show ("Resolved cluster configuration:\n" : Text) ++ c.dump = _
  rw [hline, List.append_assoc, List.singleton_append]

theorem afterFirstLine_message (c : NodeConfig) :
    afterFirstLine (Notice.resolved c).message = c.dump := by
  rw [message_resolved, afterFirstLine, Text.dropWhile_ne_append (by decide)]
  rfl

theorem isAscii_message (c : NodeConfig) : (Notice.resolved c).message.IsAscii := by
  have hline : Text.IsAscii ("Resolved cluster configuration:" : Text) :=
    Text.isAscii_of_all (by decide)
  rw [message_resolved]
  exact Text.isAscii_append.mpr ⟨hline, Text.isAscii_cons.mpr ⟨by decide, Dump.isAscii_dump c⟩⟩

/-- The last message of a start shows the configuration that it resolved, and tells it from all
others, unless its texts hold split pairs. -/
structure Announced (s : Start) (c : NodeConfig) (message : Text) : Prop where
  resolved : s.resolved? = some c
  last : s.lastMessage? = some message
  ascii : message.IsAscii
  content : c.Unsplit → Json.read? (afterFirstLine message) = some c.toJson
  distinct : c.Unsplit → ∀ (s' : Start) (c' : NodeConfig), s'.outcome.result = .ok .started →
    s'.resolved? = some c' → c'.Unsplit → (∃ p : Property, p.get c ≠ p.get c') →
    s'.lastMessage? ≠ some message

theorem announced_of_started {s : Start} (h : s.outcome.result = .ok .started) :
    ∃ c message, Announced s c message := by
  obtain ⟨c, hc, hfits, hlast⟩ := Start.resolved_of_started h
  refine ⟨c, (Notice.resolved c).message, hc, hlast, isAscii_message c, ?_, ?_⟩
  · intro hunsplit
    rw [afterFirstLine_message, Json.read?_dump hfits hunsplit]
  · intro hunsplit s' c' hs' hc' hunsplit' hdiffer hsame
    obtain ⟨d, hd, hfits', hlast'⟩ := Start.resolved_of_started hs'
    rw [hc', Option.some.injEq] at hd
    subst hd
    rw [hlast', Option.some.injEq] at hsame
    have hdump : c'.dump = c.dump := by
      rw [← afterFirstLine_message c', hsame, afterFirstLine_message]
    obtain ⟨p, hp⟩ := hdiffer
    exact hp (congrArg p.get
      (NodeConfig.dump_injective hfits hunsplit hfits' hunsplit' hdump.symm))

theorem announced_of_started_zoned :
    let s : Start :=
      { read := fun _ => .ok (Utf8.ofString
          "LOCAL_IP=node\nQUERY_TIME_OUT_SEC=123456789012345678901\nSEED_NODES=[fe80::1%é]:1:2\n")
        directory := .ofTable [("node", .addresses ["fe80::2%\"\\\x07😀"])]
        env := fun name => if name = ("CLUSTER_CONF" : Text) then some "conf" else none
        arguments := ["--data_port=7"] }
    let c : NodeConfig :=
      { localIp := "fe80::2%\"\\\x07😀", dataPort := 7, seeds := ["[fe80::1%é]:1:2"],
        queryTimeout := 123456789012345678901 }
    s.outcome.result = .ok .started ∧ c.Unsplit ∧ ∃ message, Announced s c message := by
  intro s c
  have hrun : s.outcome.result = .ok .started ∧ s.resolved? = some c := by decide +kernel
  obtain ⟨h, hc⟩ := hrun
  obtain ⟨resolved, message, ha⟩ := announced_of_started h
  have hsame : resolved = c := by
    have hr := ha.resolved
    rw [hc, Option.some.injEq] at hr
    exact hr.symm
  subst hsame
  exact ⟨h, ⟨Text.unsplit_ofChars _, List.forall_mem_singleton.mpr (Text.unsplit_ofChars _)⟩,
    message, ha⟩

/-- The halves of a pair are shown as the character that they stand for, so a seed entry with the
halves is announced as the entry with the character. -/
theorem split_pair_announced_alike :
    let startWith (zone : Text) : Start :=
      { read := fun _ => .ok []
        directory := .ofTable []
        env := fun _ => none
        arguments := ["--seed_nodes=[fe80::1%" ++ zone ++ "]:1:2"] }
    let pair : Text := [.half 0x3D, .half 0x600]
    let split := startWith pair
    let whole := startWith "😀"
    let c : NodeConfig := { seeds := ["[fe80::1%" ++ pair ++ "]:1:2"] }
    let c' : NodeConfig := { seeds := ["[fe80::1%😀]:1:2"] }
    (split.outcome.result = .ok .started ∧ split.resolved? = some c) ∧
      (whole.outcome.result = .ok .started ∧ whole.resolved? = some c') ∧ c.seeds ≠ c'.seeds ∧
      ∃ message, split.lastMessage? = some message ∧ whole.lastMessage? = some message ∧
        Json.read? (afterFirstLine message) = some c'.toJson ∧ c'.toJson ≠ c.toJson := by
  intro startWith pair split whole c c'
  have hsplit : split.outcome.result = .ok .started ∧ split.resolved? = some c := by
    decide +kernel
  have hwhole : whole.outcome.result = .ok .started ∧ whole.resolved? = some c' := by
    decide +kernel
  have hseeds : c.seeds ≠ c'.seeds := by decide
  have hshown : Dump.strings 2 c.seeds = Dump.strings 2 c'.seeds := by decide +kernel
  have hmember : ∀ p : Property, Dump.member c p = Dump.member c' p := by
    intro p
    cases p with
    | seeds => exact congrArg (Dump.string Property.seeds.name ++ ": " ++ ·) hshown
    | _ => rfl
  have hdump : c.dump = c'.dump := by
    rw [NodeConfig.dump, NodeConfig.dump, List.map_congr_left fun p _ => hmember p]
  obtain ⟨resolved, hresolved, -, hsame⟩ := Start.resolved_of_started hsplit.1
  rw [hsplit.2, Option.some.injEq] at hresolved
  subst hresolved
  obtain ⟨resolved', hresolved', hfits, hlast⟩ := Start.resolved_of_started hwhole.1
  rw [hwhole.2, Option.some.injEq] at hresolved'
  subst hresolved'
  rw [message_resolved, hdump, ← message_resolved] at hsame
  have hunsplit : c'.Unsplit :=
    ⟨Text.unsplit_ofChars _, List.forall_mem_singleton.mpr (Text.unsplit_ofChars _)⟩
  refine ⟨hsplit, hwhole, hseeds, _, hsame, hlast, ?_, fun hjson => hseeds ?_⟩
  · rw [afterFirstLine_message, Json.read?_dump hfits hunsplit]
  · rw [NodeConfig.toJson_injective hjson]

end Startup

end NodeSettings
