import NodeSettings.Outcome
import NodeSettings.Proofs.Property.Overlay

/-!
# The last value of a flag

Flags with their values can be told from a command line without reading any value. A command line
that is taken holds nothing else: what it overrides is, flag by flag, the value read from the last
occurrence of that flag, and every port that it gives anywhere is a port number.
-/

namespace NodeSettings.CommandLine

/-- The flags of a command line with the texts of their values, in order. An argument that is a
flag takes the one after it; another carries its value behind an equals sign. -/
def occurrences : List Text → List (Flag × Text)
  | [] => []
  | argument :: rest =>
    match Flag.ofText? argument with
    | some flag =>
      match rest with
      | value :: rest => (flag, value) :: occurrences rest
      | [] => []
    | none =>
      match attachedFlag? argument with
      | some occurrence => occurrence :: occurrences rest
      | none => occurrences rest

/-! ### What an argument that is a flag looks like -/

theorem classify_eq_flag {argument : Text} {flag : Flag} {attached : Option Text}
    (h : classify argument = .flag flag attached) :
    match attached with
    | none => Flag.ofText? argument = some flag
    | some value =>
      Flag.ofText? argument = none ∧ attachedFlag? argument = some (flag, value) := by
  unfold classify at h
  split at h
  · unfold classifyDashed at h
    split at h
    · rename_i hf
      cases h
      exact hf
    · rename_i hf
      split at h
      · cases h
      · split at h
        · rename_i ha
          cases h
          exact ⟨hf, ha⟩
        · split at h <;> cases h
  · cases h

theorem occurrences_separate {argument : Text} {flag : Flag}
    (h : classify argument = .flag flag none) (value : Text) (rest : List Text) :
    occurrences (argument :: value :: rest) = (flag, value) :: occurrences rest := by
  have hf : Flag.ofText? argument = some flag := classify_eq_flag h
  simp only [occurrences, hf]

theorem occurrences_attached {argument value : Text} {flag : Flag}
    (h : classify argument = .flag flag (some value)) (rest : List Text) :
    occurrences (argument :: rest) = (flag, value) :: occurrences rest := by
  obtain ⟨hf, ha⟩ := classify_eq_flag h
  simp only [occurrences, hf, ha]

/-! ### A scan without strays assigns the occurrences -/

/-- What is given once all of the flags have their values. -/
def Given.assignAll (given : Given) : List (Flag × Text) → Except Fault Given
  | [] => .ok given
  | (flag, value) :: rest =>
    match given.assign flag value with
    | .ok given => given.assignAll rest
    | .error e => .error e

theorem assignAll_cons_eq_ok_iff {given given' : Given} {flag : Flag} {value : Text}
    {rest : List (Flag × Text)} :
    given.assignAll ((flag, value) :: rest) = .ok given'
      ↔ ∃ next, given.assign flag value = .ok next ∧ next.assignAll rest = .ok given' := by
  cases ha : given.assign flag value <;> simp [Given.assignAll, ha]

theorem strays_of_assign {given given' : Given} {flag : Flag} {value : Text}
    (h : given.assign flag value = .ok given') : given'.strays = given.strays := by
  cases flag with
  | port p =>
    simp only [Given.assign] at h
    split at h
    · cases h
      cases p <;> rfl
    · cases h
  | seeds =>
    cases h
    rfl

theorem strays_of_scan {given given' : Given} {arguments : List Text}
    (h : scan given arguments = .ok given') : ∃ more, given'.strays = given.strays ++ more := by
  fun_induction scan given arguments with
  | case1 given =>
    cases h
    exact ⟨[], by simp⟩
  | case2 given rest =>
    cases h
    exact ⟨endOfFlags :: rest, rfl⟩
  | case3 given argument rest _ _ ih | case4 given argument rest _ _ ih =>
    obtain ⟨more, hm⟩ := ih h
    exact ⟨argument :: more, by simp [hm]⟩
  | case5 given argument rest _ flag value _ next ha ih =>
    obtain ⟨more, hm⟩ := ih h
    exact ⟨more, by rw [hm, strays_of_assign ha]⟩
  | case7 given argument _ flag _ value rest _ next ha ih =>
    obtain ⟨more, hm⟩ := ih h
    exact ⟨more, by rw [hm, strays_of_assign ha]⟩
  | case6 | case8 | case9 | case10 => cases h

theorem assignAll_of_scan {given given' : Given} {arguments : List Text}
    (h : scan given arguments = .ok given') (hs : given'.strays = []) :
    given.assignAll (occurrences arguments) = .ok given' := by
  fun_induction scan given arguments with
  | case1 given =>
    cases h
    rfl
  | case2 given rest =>
    cases h
    simp at hs
  | case3 given argument rest _ _ ih | case4 given argument rest _ _ ih =>
    obtain ⟨more, hm⟩ := strays_of_scan h
    rw [hs] at hm
    simp at hm
  | case5 given argument rest _ flag value hc next ha ih =>
    rw [occurrences_attached hc]
    exact assignAll_cons_eq_ok_iff.mpr ⟨next, ha, ih h⟩
  | case7 given argument _ flag hc value rest _ next ha ih =>
    rw [occurrences_separate hc]
    exact assignAll_cons_eq_ok_iff.mpr ⟨next, ha, ih h⟩
  | case6 | case8 | case9 | case10 => cases h

/-! ### Ports -/

theorem readPort_eq_ok_iff {p : PortFlag} {raw : Text} {n : Int} :
    readPort p raw = .ok n ↔ Decimal.parse raw = .ok n ∧ isPort n := by
  unfold readPort
  split
  · rename_i h
    simp [h]
  · rename_i h
    simp [h]
  · rename_i m h
    rw [h]
    split
    · rename_i hm
      simp only [Except.ok.injEq, iff_self_and]
      rintro rfl
      exact hm
    · rename_i hm
      simp only [reduceCtorEq, Except.ok.injEq, false_iff, not_and]
      rintro rfl
      exact hm

/-! ### The last occurrence counts -/

def Given.port? (given : Given) : PortFlag → Option Int
  | .metaPort => given.metaPort
  | .dataPort => given.dataPort
  | .clientPort => given.clientPort

theorem port?_setPort (given : Given) (p q : PortFlag) (n : Int) :
    (given.setPort p n).port? q = if q = p then some n else given.port? q := by
  cases p <;> cases q <;> rfl

theorem seeds_setPort (given : Given) (p : PortFlag) (n : Int) :
    (given.setPort p n).seeds = given.seeds := by
  cases p <;> rfl

theorem assign_port {given given' : Given} {p : PortFlag} {value : Text}
    (h : given.assign (.port p) value = .ok given') :
    ∃ n, readPort p value = .ok n ∧ given' = given.setPort p n := by
  simp only [Given.assign] at h
  split at h
  · rename_i n hn
    cases h
    exact ⟨n, hn, rfl⟩
  · cases h

theorem port?_of_assignAll {given given' : Given} {list : List (Flag × Text)}
    (h : given.assignAll list = .ok given') (p : PortFlag) :
    match list.reverse.lookup (.port p) with
    | some raw => ∃ n, readPort p raw = .ok n ∧ given'.port? p = some n
    | none => given'.port? p = given.port? p := by
  induction list generalizing given with
  | nil =>
    cases h
    rfl
  | cons x rest ih =>
    obtain ⟨flag, value⟩ := x
    obtain ⟨next, ha, hnext⟩ := assignAll_cons_eq_ok_iff.mp h
    have hrest := ih hnext
    rw [lookup_reverse_cons]
    cases hl : rest.reverse.lookup (Flag.port p) with
    | some raw => simpa only [hl, Option.some_or] using hrest
    | none =>
      simp only [hl, Option.none_or] at hrest ⊢
      cases flag with
      | seeds =>
        cases ha
        have hkeep : ({ given with seeds := some value } : Given).port? p = given.port? p := by
          cases p <;> rfl
        rw [hkeep] at hrest
        simpa using hrest
      | port q =>
        obtain ⟨n, hn, rfl⟩ := assign_port ha
        rw [port?_setPort] at hrest
        by_cases hq : p = q
        · subst hq
          simp only [if_true] at hrest ⊢
          exact ⟨n, hn, hrest⟩
        · simpa [hq] using hrest

theorem seeds_of_assignAll {given given' : Given} {list : List (Flag × Text)}
    (h : given.assignAll list = .ok given') :
    given'.seeds = (list.reverse.lookup .seeds).or given.seeds := by
  induction list generalizing given with
  | nil =>
    cases h
    rfl
  | cons x rest ih =>
    obtain ⟨flag, value⟩ := x
    obtain ⟨next, ha, hnext⟩ := assignAll_cons_eq_ok_iff.mp h
    rw [ih hnext, lookup_reverse_cons, Option.or_assoc]
    congr 1
    cases flag with
    | seeds =>
      cases ha
      simp
    | port q =>
      obtain ⟨n, -, rfl⟩ := assign_port ha
      simp [seeds_setPort]

/-! ### What a command line makes of a property -/

/-- The flag that overrides a property. -/
def flagOf? : Property → Option Flag
  | .metaPort => some (.port .metaPort)
  | .dataPort => some (.port .dataPort)
  | .clientPort => some (.port .clientPort)
  | .seeds => some .seeds
  | _ => none

/-- The value of a property in the text that its flag is given. -/
def readOverride? : (p : Property) → Text → Option p.kind.Value
  | .metaPort, raw => (readPort .metaPort raw).toOption
  | .dataPort, raw => (readPort .dataPort raw).toOption
  | .clientPort, raw => (readPort .clientPort raw).toOption
  | .seeds, raw => (Seed.parseList raw).toOption
  | _, _ => none

/-- The text that flags with their values give to a property: that of the last occurrence. -/
def lastValue? (list : List (Flag × Text)) (p : Property) : Option Text :=
  (flagOf? p).bind fun flag => list.reverse.lookup flag

theorem toOption_eq_some_iff {ε α : Type} {e : Except ε α} {a : α} :
    e.toOption = some a ↔ e = .ok a := by
  cases e <;> simp [Except.toOption]

theorem override_eq_ok_iff {arguments : List Text} {c c' : NodeConfig} :
    (override arguments c).2.result = .ok () ∧ (override arguments c).1 = c'
      ↔ ∃ o, parse arguments = .ok o ∧ o.apply c = c' := by
  unfold override
  cases parse arguments <;> simp

theorem scan_of_parse {arguments : List Text} {o : Overrides} (h : parse arguments = .ok o) :
    ∃ given : Given, scan {} arguments = .ok given ∧ given.strays = [] ∧
      readSeedList given.seeds = .ok o.seeds ∧ o.metaPort = given.metaPort ∧
      o.dataPort = given.dataPort ∧ o.clientPort = given.clientPort := by
  unfold parse at h
  split at h
  · cases h
  · rename_i given hscan
    split at h
    · cases h
    · rename_i hstrays
      have hs : given.strays = [] := by simpa using hstrays
      split at h
      · cases h
      · rename_i seeds hseeds
        cases h
        exact ⟨given, hscan, hs, hseeds, rfl, rfl, rfl⟩

theorem given_of_parse {arguments : List Text} {o : Overrides} (h : parse arguments = .ok o) :
    ∃ given : Given, Given.assignAll {} (occurrences arguments) = .ok given ∧
      readSeedList given.seeds = .ok o.seeds ∧ o.metaPort = given.metaPort ∧
      o.dataPort = given.dataPort ∧ o.clientPort = given.clientPort := by
  obtain ⟨given, hscan, hs, hfields⟩ := scan_of_parse h
  exact ⟨given, assignAll_of_scan hscan hs, hfields⟩

theorem port_of_parse {arguments : List Text} {given : Given}
    (h : Given.assignAll {} (occurrences arguments) = .ok given) (p : PortFlag) (n : Int) :
    match (occurrences arguments).reverse.lookup (.port p) with
    | some raw => (readPort p raw).toOption = some ((given.port? p).getD n)
    | none => (given.port? p).getD n = n := by
  have hp := port?_of_assignAll h p
  cases hl : (occurrences arguments).reverse.lookup (Flag.port p) with
  | none =>
    simp only [hl] at hp ⊢
    rw [hp]
    cases p <;> rfl
  | some raw =>
    simp only [hl] at hp ⊢
    obtain ⟨m, hm, hg⟩ := hp
    rw [hm, hg]
    rfl

/-- A command line that is taken gives to a property the value read from the last occurrence of
its flag, and leaves a property whose flag does not occur. -/
theorem get_apply_of_parse {arguments : List Text} {o : Overrides} (h : parse arguments = .ok o)
    (c : NodeConfig) (p : Property) :
    match lastValue? (occurrences arguments) p with
    | some raw => readOverride? p raw = some (p.get (o.apply c))
    | none => p.get (o.apply c) = p.get c := by
  obtain ⟨given, hassign, hseeds, hmeta, hdata, hclient⟩ := given_of_parse h
  cases p with
  | metaPort =>
    have hp := port_of_parse hassign .metaPort c.metaPort
    simpa only [lastValue?, flagOf?, Option.bind_some, readOverride?, Property.get, Overrides.apply,
      hmeta, Given.port?] using hp
  | dataPort =>
    have hp := port_of_parse hassign .dataPort c.dataPort
    simpa only [lastValue?, flagOf?, Option.bind_some, readOverride?, Property.get, Overrides.apply,
      hdata, Given.port?] using hp
  | clientPort =>
    have hp := port_of_parse hassign .clientPort c.clientPort
    simpa only [lastValue?, flagOf?, Option.bind_some, readOverride?, Property.get, Overrides.apply,
      hclient, Given.port?] using hp
  | seeds =>
    rw [seeds_of_assignAll hassign] at hseeds
    simp only [lastValue?, flagOf?, Option.bind_some, readOverride?, Property.get, Overrides.apply]
    cases hl : (occurrences arguments).reverse.lookup Flag.seeds with
    | none =>
      simp only [hl, Option.none_or, readSeedList, Except.ok.injEq] at hseeds
      rw [← hseeds]
      rfl
    | some raw =>
      simp only [hl, Option.some_or, readSeedList] at hseeds
      split at hseeds
      · rename_i entries he
        rw [← Except.ok.inj hseeds]
        show (Seed.parseList raw).toOption = some entries
        rw [he]
        rfl
      · cases hseeds
  | _ => rfl

end NodeSettings.CommandLine
