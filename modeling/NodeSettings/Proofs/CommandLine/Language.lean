import NodeSettings.Proofs.CommandLine.Argument
import NodeSettings.Proofs.CommandLine.Occurrences
import NodeSettings.Proofs.Text.Numeral
import NodeSettings.Session

/-!
# The language of the command line

A command line that is taken is a row of chunks, each a flag with its value in one argument or in
two. Every port in it is a port number in digits, also one that a later chunk overrides; of the
lists of seeds only the last has to be well formed. A chunk can stand anywhere among those of other
flags, and a command line outside the language changes nothing.
-/

namespace NodeSettings.CommandLine

/-! ### Chunks -/

/-- A flag with its value: in one argument, or in two. -/
inductive Chunk where
  | attached (flag : Flag) (value : Text)
  | separate (flag : Flag) (value : Text)
  deriving DecidableEq, Repr

namespace Chunk

def flag : Chunk → Flag
  | attached flag _ => flag
  | separate flag _ => flag

def value : Chunk → Text
  | attached _ value => value
  | separate _ value => value

def arguments : Chunk → List Text
  | attached flag value => [flag.text ++ .char '=' :: value]
  | separate flag value => [flag.text, value]

def occurrence (chunk : Chunk) : Flag × Text := (chunk.flag, chunk.value)

/-- A value of its own must not look like a flag. -/
def Proper : Chunk → Prop
  | attached _ _ => True
  | separate _ value => Positional value ∧ value ≠ endOfFlags

end Chunk

/-- A port number in digits, with a sign or without. -/
def PortText (raw : Text) : Prop :=
  ∃ sign digits, Decimal.Numeral raw sign digits ∧ digits.length ≤ Decimal.maxDigits ∧
    minPort ≤ sign.apply (Decimal.value digits) ∧ sign.apply (Decimal.value digits) ≤ maxPort

/-- The value of the last of the chunks with a flag. -/
def last? (chunks : List Chunk) (flag : Flag) : Option Text :=
  (chunks.map Chunk.occurrence).reverse.lookup flag

structure Accepted (chunks : List Chunk) : Prop where
  proper : ∀ chunk ∈ chunks, chunk.Proper
  ports : ∀ chunk ∈ chunks, ∀ p, chunk.flag = .port p → PortText chunk.value
  seeds : ∀ list, last? chunks .seeds = some list → ∃ entries, Seed.parseList list = .ok entries

/-! ### Reading ports -/

theorem isPort_iff {n : Int} : isPort n ↔ minPort ≤ n ∧ n ≤ maxPort := by
  simp only [isPort, Bool.and_eq_true, decide_eq_true_eq]

theorem portText_iff (p : PortFlag) {raw : Text} : PortText raw ↔ ∃ n, readPort p raw = .ok n := by
  constructor
  · rintro ⟨sign, digits, hn, hlen, hlow, hhigh⟩
    exact ⟨_, readPort_eq_ok_iff.mpr
      ⟨Decimal.parse_eq_ok_iff.mpr ⟨sign, digits, hn, hlen, rfl⟩, isPort_iff.mpr ⟨hlow, hhigh⟩⟩⟩
  · rintro ⟨n, h⟩
    obtain ⟨hp, hport⟩ := readPort_eq_ok_iff.mp h
    obtain ⟨sign, digits, hn, hlen, rfl⟩ := Decimal.parse_eq_ok_iff.mp hp
    exact ⟨sign, digits, hn, hlen, isPort_iff.mp hport⟩

/-! ### Chunks are scanned as they stand -/

theorem Flag.text_ne_endOfFlags (flag : Flag) : flag.text ≠ endOfFlags := by
  rcases flag with (_ | _ | _) | _
  all_goals decide

theorem attached_ne_endOfFlags (flag : Flag) (value : Text) :
    flag.text ++ .char '=' :: value ≠ endOfFlags := by
  intro h
  have hmem : .char '=' ∈ endOfFlags := by
    rw [← h]
    simp
  exact absurd hmem (by decide)

/-- The scan assigns the flag of a proper chunk and goes on behind it. -/
theorem scan_chunk {chunk : Chunk} (h : chunk.Proper) (given : Given) (rest : List Text) :
    scan given (chunk.arguments ++ rest)
      = match given.assign chunk.flag chunk.value with
        | .ok given => scan given rest
        | .error e => .error e := by
  cases chunk with
  | attached flag value =>
    simp only [Chunk.arguments, List.cons_append, List.nil_append, Chunk.flag, Chunk.value]
    rw [scan.eq_def]
    cases ha : given.assign flag value <;>
      simp only [attached_ne_endOfFlags, if_false, classify_attached, ha]
  | separate flag value =>
    have hv : isValue value = true := isValue_iff.mpr h
    simp only [Chunk.arguments, List.cons_append, List.nil_append, Chunk.flag, Chunk.value]
    rw [scan.eq_def]
    cases ha : given.assign flag value <;>
      simp only [flag.text_ne_endOfFlags, if_false, classify_text, hv, if_true, ha]

theorem scan_chunks {chunks : List Chunk} (h : ∀ chunk ∈ chunks, chunk.Proper) (given : Given) :
    scan given (chunks.flatMap Chunk.arguments)
      = given.assignAll (chunks.map Chunk.occurrence) := by
  induction chunks generalizing given with
  | nil =>
    rw [List.flatMap_nil, scan]
    rfl
  | cons chunk rest ih =>
    rw [List.flatMap_cons, scan_chunk (h chunk List.mem_cons_self), List.map_cons]
    simp only [Given.assignAll, Chunk.occurrence]
    cases given.assign chunk.flag chunk.value with
    | ok next => exact ih (fun c hc => h c (List.mem_cons_of_mem chunk hc)) next
    | error e => rfl

/-- Arguments that leave no strays are chunks. -/
theorem exists_chunks_of_scan {given given' : Given} {arguments : List Text}
    (h : scan given arguments = .ok given') (hs : given'.strays = []) :
    ∃ chunks : List Chunk, (∀ chunk ∈ chunks, chunk.Proper) ∧
      arguments = chunks.flatMap Chunk.arguments := by
  -- along the scan: what is no flag becomes a stray, and strays are never dropped again
  fun_induction scan given arguments with
  | case1 given => exact ⟨[], by simp, rfl⟩
  | case2 given rest =>
    cases h
    simp at hs
  | case3 given argument rest _ _ ih | case4 given argument rest _ _ ih =>
    obtain ⟨more, hm⟩ := strays_of_scan h
    rw [hs] at hm
    simp at hm
  | case5 given argument rest _ flag value hc next ha ih =>
    obtain ⟨chunks, hp, rfl⟩ := ih h
    have ht : argument = flag.text ++ .char '=' :: value :=
      attachedFlag?_eq_some_iff.mp (classify_eq_flag hc).2
    refine ⟨.attached flag value :: chunks, List.forall_mem_cons.mpr ⟨trivial, hp⟩, ?_⟩
    rw [ht, List.flatMap_cons]
    rfl
  | case7 given argument _ flag hc value rest hv next ha ih =>
    obtain ⟨chunks, hp, rfl⟩ := ih h
    have ht : argument = flag.text := Flag.ofText?_eq_some_iff.mp (classify_eq_flag hc)
    refine ⟨.separate flag value :: chunks,
      List.forall_mem_cons.mpr ⟨isValue_iff.mp hv, hp⟩, ?_⟩
    rw [ht, List.flatMap_cons]
    rfl
  | case6 | case8 | case9 | case10 => cases h

theorem occurrences_chunks (chunks : List Chunk) :
    occurrences (chunks.flatMap Chunk.arguments) = chunks.map Chunk.occurrence := by
  induction chunks with
  | nil => rfl
  | cons chunk rest ih =>
    rw [List.flatMap_cons, List.map_cons, ← ih]
    cases chunk with
    | attached flag value => exact occurrences_attached (classify_attached flag value) _
    | separate flag value => exact occurrences_separate (classify_text flag) value _

/-! ### Assigning -/

theorem exists_assign {flag : Flag} {value : Text} (h : ∀ p, flag = .port p → PortText value)
    (given : Given) : ∃ next, given.assign flag value = .ok next := by
  cases flag with
  | port p =>
    obtain ⟨n, hn⟩ := (portText_iff p).mp (h p rfl)
    exact ⟨given.setPort p n, by simp only [Given.assign, hn]⟩
  | seeds => exact ⟨_, rfl⟩

theorem exists_assignAll_iff {list : List (Flag × Text)} {given : Given} :
    (∃ given', given.assignAll list = .ok given')
      ↔ ∀ occurrence ∈ list, ∀ p, occurrence.1 = .port p → PortText occurrence.2 := by
  induction list generalizing given with
  | nil => simp [Given.assignAll]
  | cons x rest ih =>
    obtain ⟨flag, value⟩ := x
    rw [List.forall_mem_cons]
    constructor
    · rintro ⟨given', h⟩
      obtain ⟨next, ha, hnext⟩ := assignAll_cons_eq_ok_iff.mp h
      refine ⟨?_, ih.mp ⟨given', hnext⟩⟩
      rintro p rfl
      obtain ⟨n, hn, -⟩ := assign_port ha
      exact (portText_iff p).mpr ⟨n, hn⟩
    · rintro ⟨hx, hrest⟩
      obtain ⟨next, ha⟩ := exists_assign hx given
      have hnext : ∃ given', next.assignAll rest = .ok given' := ih.mpr hrest
      obtain ⟨given', h⟩ := hnext
      exact ⟨given', assignAll_cons_eq_ok_iff.mpr ⟨next, ha, h⟩⟩

theorem strays_of_assignAll {given given' : Given} {list : List (Flag × Text)}
    (h : given.assignAll list = .ok given') : given'.strays = given.strays := by
  induction list generalizing given with
  | nil =>
    cases h
    rfl
  | cons x rest ih =>
    obtain ⟨flag, value⟩ := x
    obtain ⟨next, ha, hnext⟩ := assignAll_cons_eq_ok_iff.mp h
    rw [ih hnext, strays_of_assign ha]

/-! ### What chunks override -/

/-- What is overridden by flags of which each has a last value, or none. -/
def overridesOf (last? : Flag → Option Text) : Overrides where
  metaPort := (last? (.port .metaPort)).bind fun raw => (readPort .metaPort raw).toOption
  dataPort := (last? (.port .dataPort)).bind fun raw => (readPort .dataPort raw).toOption
  clientPort := (last? (.port .clientPort)).bind fun raw => (readPort .clientPort raw).toOption
  seeds := (last? .seeds).bind fun list => (Seed.parseList list).toOption

theorem port?_eq_bind {list : List (Flag × Text)} {given : Given}
    (h : Given.assignAll {} list = .ok given) (p : PortFlag) :
    given.port? p = (list.reverse.lookup (.port p)).bind fun raw => (readPort p raw).toOption := by
  have hp := port?_of_assignAll h p
  cases hl : list.reverse.lookup (Flag.port p) with
  | none =>
    simp only [hl] at hp
    rw [hp]
    cases p <;> rfl
  | some raw =>
    simp only [hl] at hp
    obtain ⟨n, hn, hg⟩ := hp
    rw [hg, Option.bind_some, hn]
    rfl

theorem parse_of_accepted {chunks : List Chunk} (h : Accepted chunks) :
    parse (chunks.flatMap Chunk.arguments) = .ok (overridesOf (last? chunks)) := by
  have hports : ∀ occurrence ∈ chunks.map Chunk.occurrence, ∀ p, occurrence.1 = .port p →
      PortText occurrence.2 := by
    intro occurrence ho
    obtain ⟨chunk, hc, rfl⟩ := List.mem_map.mp ho
    exact h.ports chunk hc
  obtain ⟨given, hassign⟩ := exists_assignAll_iff.mpr hports
  have hscan := (scan_chunks h.proper {}).trans hassign
  have hstrays : given.strays = [] := strays_of_assignAll hassign
  have hgiven : given.seeds = last? chunks .seeds := by
    rw [seeds_of_assignAll hassign, Option.or_none]
    rfl
  have hseeds : readSeedList given.seeds = .ok (overridesOf (last? chunks)).seeds := by
    rw [hgiven]
    cases hl : last? chunks .seeds with
    | none => simp only [readSeedList, overridesOf, hl, Option.bind_none]
    | some list =>
      obtain ⟨entries, he⟩ := h.seeds list hl
      simp only [readSeedList, overridesOf, hl, Option.bind_some, he, Except.toOption]
  have hmeta := port?_eq_bind hassign .metaPort
  have hdata := port?_eq_bind hassign .dataPort
  have hclient := port?_eq_bind hassign .clientPort
  simp only [Given.port?] at hmeta hdata hclient
  simp only [parse, hscan, hstrays, List.isEmpty_nil, Bool.not_true, Bool.false_eq_true, if_false,
    hseeds, hmeta, hdata, hclient]
  rfl

theorem exists_parse_iff {arguments : List Text} :
    (∃ o, parse arguments = .ok o)
      ↔ ∃ chunks, Accepted chunks ∧ arguments = chunks.flatMap Chunk.arguments := by
  constructor
  · rintro ⟨o, h⟩
    obtain ⟨given, hscan, hs, hseeds, -⟩ := scan_of_parse h
    obtain ⟨chunks, hproper, rfl⟩ := exists_chunks_of_scan hscan hs
    have hassign := (scan_chunks hproper {}).symm.trans hscan
    have hports := exists_assignAll_iff.mp ⟨given, hassign⟩
    refine ⟨chunks, ⟨hproper, fun chunk hc p hp => ?_, fun list hl => ?_⟩, rfl⟩
    · exact hports chunk.occurrence (List.mem_map_of_mem hc) p hp
    · have hgiven : given.seeds = some list := by
        rw [seeds_of_assignAll hassign, Option.or_none]
        exact hl
      rw [hgiven] at hseeds
      cases he : Seed.parseList list with
      | ok entries => exact ⟨entries, rfl⟩
      | error e => simp [readSeedList, he] at hseeds
  · rintro ⟨chunks, hc, rfl⟩
    exact ⟨_, parse_of_accepted hc⟩

example : (parse ["--meta_port", " +9 ", "--seed_nodes=x", "--seed_nodes", "a:1:2"]).toOption
    = some { metaPort := some 9, seeds := some ["a:1:2"] } := by decide +kernel

/-! ### Reordering -/

theorem lookup_eq_head?_filter (list : List (Flag × Text)) (flag : Flag) :
    list.lookup flag = (list.filter (·.1 = flag)).head?.map Prod.snd := by
  induction list with
  | nil => rfl
  | cons x rest ih =>
    rw [List.lookup_cons, List.filter_cons]
    by_cases h : x.1 = flag
    · simp [h]
    · have hb : (flag == x.1) = false := by simpa using Ne.symm h
      simp [h, hb, ih]

/-- Chunks in another order, where the chunks of one flag keep theirs. -/
def Reordered (chunks chunks' : List Chunk) : Prop :=
  ∀ flag, chunks'.filter (·.flag = flag) = chunks.filter (·.flag = flag)

theorem Reordered.mem {chunks chunks' : List Chunk} (h : Reordered chunks chunks') {chunk : Chunk}
    (hc : chunk ∈ chunks') : chunk ∈ chunks := by
  have hm : chunk ∈ chunks'.filter (·.flag = chunk.flag) := by simpa using hc
  rw [h chunk.flag] at hm
  exact (List.mem_filter.mp hm).1

theorem last?_eq_filter (chunks : List Chunk) (flag : Flag) :
    last? chunks flag = ((chunks.filter (·.flag = flag)).map Chunk.value).getLast? := by
  rw [last?, lookup_eq_head?_filter, List.filter_reverse, List.head?_reverse, List.filter_map,
    List.getLast?_map, List.getLast?_map, Option.map_map]
  rfl

theorem Reordered.last?_eq {chunks chunks' : List Chunk} (h : Reordered chunks chunks') :
    last? chunks' = last? chunks := by
  funext flag
  rw [last?_eq_filter, last?_eq_filter, h flag]

theorem Reordered.accepted {chunks chunks' : List Chunk} (h : Reordered chunks chunks')
    (hc : Accepted chunks) : Accepted chunks' where
  proper chunk hm := hc.proper chunk (h.mem hm)
  ports chunk hm := hc.ports chunk (h.mem hm)
  seeds list hl := hc.seeds list (by rwa [h.last?_eq] at hl)

theorem parse_of_reordered {chunks chunks' : List Chunk} (h : Reordered chunks chunks')
    (hc : Accepted chunks) : parse (chunks'.flatMap Chunk.arguments)
      = parse (chunks.flatMap Chunk.arguments) := by
  rw [parse_of_accepted hc, parse_of_accepted (h.accepted hc), h.last?_eq]

end NodeSettings.CommandLine

/-! ### Overriding in a session -/

namespace NodeSettings.Session
open CommandLine

/-- What a command line makes of a session: exactly the accepted rows of chunks are taken, each
gives to a property the last value of its flag, in whatever order the flags stand, and any other
command line leaves the session as it is. -/
structure Overridden (session : Session) (arguments : List Text) : Prop where
  language : (session.step (.override arguments)).2.result = .ok .done
    ↔ ∃ chunks, Accepted chunks ∧ arguments = chunks.flatMap Chunk.arguments
  taken : ∀ chunks, Accepted chunks → arguments = chunks.flatMap Chunk.arguments →
    ∃ c, (session.step (.override arguments)).1 = { session with config := c } ∧
      ∀ p : Property, match (flagOf? p).bind (last? chunks) with
        | some raw => readOverride? p raw = some (p.get c)
        | none => p.get c = p.get session.config
  reordered : ∀ chunks chunks', Accepted chunks → arguments = chunks.flatMap Chunk.arguments →
    Reordered chunks chunks' →
    session.step (.override (chunks'.flatMap Chunk.arguments)) = session.step (.override arguments)
  refused : (session.step (.override arguments)).2.result ≠ .ok .done →
    (∃ fault, (session.step (.override arguments)).2.result = .error (.override fault)) ∧
      (session.step (.override arguments)).1 = session

theorem step_of_parse (session : Session) (arguments : List Text) :
    match parse arguments with
    | .ok o => (session.step (.override arguments)).2.result = .ok .done ∧
        (session.step (.override arguments)).1
          = { session with config := o.apply session.config }
    | .error fault => (session.step (.override arguments)).2.result = .error (.override fault) ∧
        (session.step (.override arguments)).1 = session := by
  cases hp : parse arguments with
  | ok o =>
    have ho : (override arguments session.config).2.result = .ok () := by simp only [override, hp]
    rw [step, settle_of_ok session ho]
    simp only [override, hp, and_self]
  | error fault =>
    have ho : (override arguments session.config).2.result = .error fault := by
      simp only [override, hp]
    rw [step, settle_of_error session ho]
    simp only [override, hp, and_self]

theorem step_override_eq {session : Session} {arguments arguments' : List Text}
    {o : Overrides} (h : parse arguments = .ok o) (h' : parse arguments' = .ok o) :
    session.step (.override arguments') = session.step (.override arguments) := by
  simp only [step, settle, override, h, h']

theorem done_iff {session : Session} {arguments : List Text} :
    (session.step (.override arguments)).2.result = .ok .done
      ↔ ∃ o, parse arguments = .ok o := by
  have hs := session.step_of_parse arguments
  cases hp : parse arguments with
  | ok o =>
    simp only [hp] at hs
    exact iff_of_true hs.1 ⟨o, rfl⟩
  | error fault =>
    simp only [hp] at hs
    rw [hs.1]
    simp

theorem overrides_by_language (session : Session) (arguments : List Text) :
    session.Overridden arguments where
  language := done_iff.trans exists_parse_iff
  taken := by
    rintro chunks hc rfl
    have hp := parse_of_accepted hc
    have hs := session.step_of_parse (chunks.flatMap Chunk.arguments)
    simp only [hp] at hs
    refine ⟨_, hs.2, fun p => ?_⟩
    have hget := get_apply_of_parse hp session.config p
    rw [occurrences_chunks] at hget
    exact hget
  reordered := by
    rintro chunks chunks' hc rfl hr
    have hp := parse_of_accepted hc
    exact step_override_eq hp ((parse_of_reordered hr hc).trans hp)
  refused := by
    intro hno
    have hs := session.step_of_parse arguments
    cases hp : parse arguments with
    | ok o => exact absurd (done_iff.mpr ⟨o, hp⟩) hno
    | error fault =>
      simp only [hp] at hs
      exact ⟨⟨fault, hs.1⟩, hs.2⟩

end NodeSettings.Session
