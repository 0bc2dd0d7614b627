import NodeSettings.Proofs.CommandLine.Language
import NodeSettings.Proofs.Config.Validity

/-!
# Flags and properties agree

A flag takes the texts that the properties file may hold under the key of the same property: those
with which a valid configuration stays valid. The reader of ports knows the bounds of a port; the
reader of integers does not, and the check of the configuration makes up for it. Either way the
text makes the same configuration.
-/

namespace NodeSettings

namespace CommandLine

/-! ### The property of a flag -/

def Flag.property : Flag → Property
  | .port .metaPort => .metaPort
  | .port .dataPort => .dataPort
  | .port .clientPort => .clientPort
  | .seeds => .seeds

theorem flagOf?_eq_some_iff {p : Property} {flag : Flag} :
    flagOf? p = some flag ↔ p = flag.property := by
  constructor
  · intro h
    cases p <;> cases h <;> rfl
  · intro h
    subst h
    rcases flag with (_ | _ | _) | _ <;> rfl

/-! ### One flag -/

theorem lastValue?_singleton (flag : Flag) (raw : Text) (p : Property) :
    lastValue? [(flag, raw)] p = if p = flag.property then some raw else none := by
  rw [lastValue?, List.reverse_singleton]
  split
  · rename_i h
    rw [flagOf?_eq_some_iff.mpr h, Option.bind_some, List.lookup_cons_self]
  · rename_i h
    rw [Option.bind_eq_none_iff]
    intro other ho
    have hne : other ≠ flag := by
      intro he
      exact h (flagOf?_eq_some_iff.mp (he ▸ ho))
    rw [List.lookup_cons, beq_eq_false_iff_ne.mpr hne, List.lookup_nil]

theorem accepted_attached {flag : Flag} {raw : Text} {value : flag.property.kind.Value}
    (h : readOverride? flag.property raw = some value) : Accepted [.attached flag raw] where
  proper := by simp [Chunk.Proper]
  ports := by
    intro chunk hc p hp
    cases List.mem_singleton.mp hc
    cases hp
    cases p with
    | metaPort | dataPort | clientPort =>
      exact (portText_iff _).mpr ⟨value, toOption_eq_some_iff.mp h⟩
  seeds := by
    intro list hl
    cases flag with
    | port p => cases hl
    | seeds =>
      cases hl
      exact ⟨value, toOption_eq_some_iff.mp h⟩

/-- A command line of one flag sets the property of the flag, if it takes the text. -/
theorem override_attached_iff {flag : Flag} {raw : Text} {c c' : NodeConfig} :
    (override [flag.text ++ .char '=' :: raw] c).2.result = .ok () ∧
        (override [flag.text ++ .char '=' :: raw] c).1 = c'
      ↔ ∃ value, readOverride? flag.property raw = some value ∧
        c' = flag.property.set value c := by
  have hset : ∀ o, parse [flag.text ++ .char '=' :: raw] = .ok o →
      ∃ value, readOverride? flag.property raw = some value ∧
        o.apply c = flag.property.set value c := by
    intro o ho
    have hget := get_apply_of_parse ho c
    rw [occurrences_attached (classify_attached flag raw) []] at hget
    simp only [occurrences, lastValue?_singleton] at hget
    have hflag := hget flag.property
    rw [if_pos rfl] at hflag
    refine ⟨_, hflag, NodeConfig.ext_get fun p => ?_⟩
    by_cases hp : p = flag.property
    · subst hp
      rw [Property.get_set_self]
    · have hkeep := hget p
      rw [if_neg hp] at hkeep
      rw [hkeep, Property.get_set_of_ne hp]
  constructor
  · intro h
    obtain ⟨o, ho, rfl⟩ := override_eq_ok_iff.mp h
    exact hset o ho
  · intro h
    obtain ⟨value, hr, rfl⟩ := h
    -- the line is taken, so what it sets is again the value that is read from the text
    have ho := parse_of_accepted (accepted_attached hr)
    obtain ⟨value', hr', happly⟩ := hset _ ho
    rw [hr, Option.some.injEq] at hr'
    subst hr'
    exact override_eq_ok_iff.mpr ⟨_, ho, happly⟩

end CommandLine

open CommandLine

/-! ### What a flag takes and what the file takes -/

theorem readPort_eq_iff {p : PortFlag} {raw : Text} {n : Int} {valid : Prop}
    (h : isPort n ↔ valid) :
    (readPort p raw).toOption = some n ↔ readInteger raw = .ok n ∧ valid := by
  rw [toOption_eq_some_iff, readPort_eq_ok_iff, readInteger_eq_ok_iff, h]

theorem parseList_eq_iff {raw : Text} {es : List Text} {valid : Prop}
    (h : Seed.parseList raw = .ok es → valid) :
    (Seed.parseList raw).toOption = some es ↔ readSeeds raw = .ok es ∧ valid := by
  have hread : readSeeds raw = .ok es ↔ Seed.parseList raw = .ok es := by
    unfold readSeeds
    split <;> rename_i hlist <;> simp [hlist]
  rw [toOption_eq_some_iff, hread]
  exact (and_iff_left_of_imp h).symm

/-- A flag takes the texts that its property takes and that keep a valid configuration valid. -/
theorem readOverride?_eq_some_iff {c : NodeConfig} (hc : c.Valid) {flag : Flag} {raw : Text}
    {value : flag.property.kind.Value} :
    readOverride? flag.property raw = some value
      ↔ flag.property.read raw = .ok value ∧ (flag.property.set value c).Valid := by
  cases flag with
  | port p =>
    cases p with
    | metaPort => exact readPort_eq_iff ⟨fun h => { hc with metaPort := h }, fun h => h.metaPort⟩
    | dataPort => exact readPort_eq_iff ⟨fun h => { hc with dataPort := h }, fun h => h.dataPort⟩
    | clientPort =>
      exact readPort_eq_iff ⟨fun h => { hc with clientPort := h }, fun h => h.clientPort⟩
  | seeds => exact parseList_eq_iff fun h => { hc with seeds := isSome_of_parseList h }

/-- A text makes of a valid configuration the same one as the value of a flag and as the value of
its property that passes the check, or it is refused as both. -/
theorem override_iff_applyProperties {c : NodeConfig} (hc : c.validate = .ok ()) (flag : Flag)
    (raw : Text) (c' : NodeConfig) :
    (override [flag.text ++ .char '=' :: raw] c).2.result = .ok () ∧
        (override [flag.text ++ .char '=' :: raw] c).1 = c'
      ↔ applyProperties [(flag.property.key, raw)] c = (c', .ok ()) ∧ c'.validate = .ok () := by
  have hvalid := NodeConfig.validate_eq_ok_iff.mp hc
  rw [override_attached_iff, applyProperties_eq_ok_iff, Overlay.apply_singleton_iff,
    NodeConfig.validate_eq_ok_iff]
  constructor
  · intro h
    obtain ⟨value, hr, rfl⟩ := h
    obtain ⟨hread, hset⟩ := (readOverride?_eq_some_iff hvalid).mp hr
    exact ⟨⟨value, hread, rfl⟩, hset⟩
  · intro h
    obtain ⟨⟨value, hread, rfl⟩, hset⟩ := h
    exact ⟨value, (readOverride?_eq_some_iff hvalid).mpr ⟨hread, hset⟩, rfl⟩

theorem override_iff_applyProperties_signed :
    ({} : NodeConfig).validate = .ok () ∧
      ((override ["--client_port= +070\t"] {}).2.result = .ok () ∧
        (override ["--client_port= +070\t"] {}).1 = { clientPort := 70 }) ∧
      applyProperties [("LOCAL_CLIENT_PORT", " +070\t")] {} = ({ clientPort := 70 }, .ok ()) ∧
      ({ clientPort := 70 } : NodeConfig).validate = .ok () := by
  have hc : ({} : NodeConfig).validate = .ok () := by decide +kernel
  have ho : (override ["--client_port= +070\t"] {}).2.result = .ok () ∧
      (override ["--client_port= +070\t"] {}).1 = { clientPort := 70 } := by
    decide +kernel
  exact ⟨hc, ho, (override_iff_applyProperties hc (.port .clientPort) " +070\t" _).mp ho⟩

end NodeSettings
