import NodeSettings.Proofs.Log.Configuration

/-!
# A journal that is configured once

Parts of a program call on one journal, to configure it or for a logger, in any order and among
files that change at will. The journal is configured from the first call on that returns, and no
call after that one moves its level or its handlers. A call that fails leaves it to be configured
afresh: the next one does what it would do to a new journal, whatever the failures before it have
left behind. At every moment, also between the stages of a call, there is one handler for the
console at most, and one for a file.
-/

namespace NodeSettings.Log.Journal

/-! ### Calls -/

/-- A call on a journal, among the files that it finds. -/
structure Call where
  /-- How the journal is to be configured; a part of the program that asks for a logger says
  nothing on that. -/
  request : Option Request
  files : FileTree := {}
  outside : Option OpenError := none

/-- The journal with the files that a call finds. -/
def facing (j : Journal) (call : Call) : Journal :=
  { j with files := call.files, outside := call.outside }

def answer (m : Machine) (settings : Settings) (j : Journal) (call : Call) :
    Journal × Except ConfigureFailure Unit :=
  match call.request with
  | some request => (j.facing call).configure m settings request
  | none => (j.facing call).ensureConfigured m settings

def reached (m : Machine) (settings : Settings) (j : Journal) : List Call → Journal
  | [] => j
  | call :: rest => reached m settings (answer m settings j call).1 rest

def results (m : Machine) (settings : Settings) (j : Journal) :
    List Call → List (Except ConfigureFailure Unit)
  | [] => []
  | call :: rest =>
    (answer m settings j call).2 :: results m settings (answer m settings j call).1 rest

/-! ### Moments -/

/-- The journals that stages pass through, from the one that they find to the one that they
leave. -/
def row (m : Machine) (settings : Settings) (request : Request) (j : Journal) :
    List Stage → List Journal
  | [] => [j]
  | s :: rest =>
    match j.stage m settings request s with
    | (j', .error _) => [j, j']
    | (j', .ok ()) => j :: row m settings request j' rest

/-- The journals that a call passes through. -/
def during (m : Machine) (settings : Settings) (j : Journal) (call : Call) : List Journal :=
  if j.configured then [j.facing call]
  else row m settings (call.request.getD {}) (j.facing call) Stage.all

/-- The journals that calls pass through. -/
def passed (m : Machine) (settings : Settings) (j : Journal) : List Call → List Journal
  | [] => [j]
  | call :: rest =>
    j :: (during m settings j call ++ passed m settings (answer m settings j call).1 rest)

variable {m : Machine} {settings : Settings}

theorem answer_eq (j : Journal) (call : Call) :
    answer m settings j call = (j.facing call).configure m settings (call.request.getD {}) := by
  unfold answer
  cases call.request <;> rfl

theorem answer_of_configured {j : Journal} (h : j.configured) (call : Call) :
    answer m settings j call = (j.facing call, .ok ()) := by
  have hfacing : (j.facing call).configured := h
  rw [answer_eq, configure_of_configured hfacing]

theorem row_of_ok {request : Request} {j j' : Journal} {s : Stage}
    (h : j.stage m settings request s = (j', .ok ())) (rest : List Stage) :
    row m settings request j (s :: rest) = j :: row m settings request j' rest := by
  simp only [row, h]

theorem row_of_error {request : Request} {j j' : Journal} {s : Stage} {e : ConfigureFailure}
    (h : j.stage m settings request s = (j', .error e)) (rest : List Stage) :
    row m settings request j (s :: rest) = [j, j'] := by
  simp only [row, h]

/-- The row of some stages ends in what comes of them. -/
theorem getLast?_row (request : Request) (j : Journal) (stages : List Stage) :
    (row m settings request j stages).getLast? = some (j.attempt m settings request stages).1 := by
  induction stages generalizing j with
  | nil => rfl
  | cons s rest ih =>
    rcases hs : j.stage m settings request s with ⟨j', e | ⟨⟩⟩
    · rw [row_of_error hs, attempt_of_error hs]
      rfl
    · rw [row_of_ok hs, attempt_of_ok hs, List.getLast?_cons, ih]
      rfl

theorem getLast?_during (j : Journal) (call : Call) :
    (during m settings j call).getLast? = some (answer m settings j call).1 := by
  unfold during
  split
  case isTrue h =>
    rw [answer_of_configured h]
    rfl
  case isFalse h =>
    have hfacing : (j.facing call).configured = false := by simpa [facing] using h
    rw [getLast?_row, answer_eq, configure_eq_attempt hfacing]

theorem getLast?_passed (j : Journal) (calls : List Call) :
    (passed m settings j calls).getLast? = some (reached m settings j calls) := by
  induction calls generalizing j with
  | nil => rfl
  | cons call rest ih =>
    rw [passed, reached, List.getLast?_cons, List.getLast?_append, ih]
    rfl

/-! ### From the first success on -/

theorem configured_configure_iff (j : Journal) (request : Request) :
    (j.configure m settings request).1.configured ↔
      (j.configure m settings request).2 = .ok () := by
  have ha := attempt_configure m j settings request
  generalize j.configure m settings request = o at ha ⊢
  cases ha with
  | kept h => simp [h]
  | level h => simp [h]
  | format h => simp [h]
  | file h => simp [withConsole, h]
  | withFile => simp
  | withoutFile => simp

theorem configured_answer_iff (j : Journal) (call : Call) :
    (answer m settings j call).1.configured ↔ (answer m settings j call).2 = .ok () := by
  rw [answer_eq]
  exact configured_configure_iff (j.facing call) _

/-- A journal is configured exactly if it was or a call has returned. -/
theorem configured_reached_iff (j : Journal) (calls : List Call) :
    (reached m settings j calls).configured ↔
      j.configured ∨ .ok () ∈ results m settings j calls := by
  induction calls generalizing j with
  | nil => simp [reached, results]
  | cons call rest ih =>
    have hstep : (answer m settings j call).1.configured ↔ _ := configured_answer_iff j call
    rw [reached, results, ih, hstep, List.mem_cons, eq_comm]
    constructor
    · exact Or.inr
    · rintro (h | h)
      · rw [answer_of_configured h]
        exact .inl rfl
      · exact h

/-- No call on a journal that is configured fails or moves its level or its handlers. -/
structure Kept (m : Machine) (settings : Settings) (j : Journal) (calls : List Call) : Prop where
  configured : (reached m settings j calls).configured
  level : (reached m settings j calls).level = j.level
  handlers : (reached m settings j calls).handlers = j.handlers
  results : ∀ result ∈ results m settings j calls, result = .ok ()

theorem kept_of_configured {j : Journal} (h : j.configured) (calls : List Call) :
    Kept m settings j calls := by
  induction calls generalizing j with
  | nil => exact ⟨h, rfl, rfl, by simp [Journal.results]⟩
  | cons call rest ih =>
    have ha : answer m settings j call = _ := answer_of_configured h call
    have hfacing : (j.facing call).configured := h
    have hrest := ih hfacing
    refine ⟨?_, ?_, ?_, ?_⟩
    · rw [reached, ha]
      exact hrest.configured
    · rw [reached, ha, hrest.level]
      rfl
    · rw [reached, ha, hrest.handlers]
      rfl
    · rw [Journal.results, ha, List.forall_mem_cons]
      exact ⟨rfl, hrest.results⟩

/-! ### After a failure -/

/-- Two attempts that come to the same, as far as they return. -/
structure SameOutcome (o o' : Journal × Except ConfigureFailure Unit) : Prop where
  result : o.2 = o'.2
  level : o.2 = .ok () → o.1.level = o'.1.level
  handlers : o.2 = .ok () → o.1.handlers = o'.1.handlers

theorem sameOutcome_of_failure (j j' : Journal) (e : ConfigureFailure) :
    SameOutcome (j, .error e) (j', .error e) :=
  ⟨rfl, nofun, nofun⟩

/-- Of a journal that is not configured only the files bear on what an attempt comes to. -/
theorem sameOutcome_configure {j j' : Journal} (hj : j.configured = false)
    (hj' : j'.configured = false) (hfiles : j.files = j'.files) (houtside : j.outside = j'.outside)
    (request : Request) :
    SameOutcome (j.configure m settings request) (j'.configure m settings request) := by
  cases hl : Level.ofName (request.levelName settings) with
  | error taken =>
    rw [configure_of_taken hj m hl, configure_of_taken hj' m hl]
    exact sameOutcome_of_failure j j' _
  | ok level =>
    cases ht : settings.template m with
    | error e =>
      rw [configure_of_format hj hl ht, configure_of_format hj' hl ht]
      exact sameOutcome_of_failure _ _ _
    | ok template =>
      rw [configure_of_template hj hl ht, configure_of_template hj' hl ht]
      cases hw : request.wantsFile settings with
      | false =>
        rw [attempt_of_ok (stage_file_of_not_wantsFile ht hw),
          attempt_of_ok (stage_file_of_not_wantsFile ht hw)]
        exact ⟨rfl, fun _ => rfl, fun _ => rfl⟩
      | true =>
        have hopen : j.openFile request = j'.openFile request := by
          simp only [openFile, hfiles, houtside]
        cases ho : j'.openFile request with
        | error e =>
          have ho' := hopen.trans ho
          rw [attempt_of_error (stage_file_of_error ht hw ((openFile_withConsole ..).trans ho')),
            attempt_of_error (stage_file_of_error ht hw ((openFile_withConsole ..).trans ho))]
          exact sameOutcome_of_failure _ _ _
        | ok opened =>
          have ho' := hopen.trans ho
          rw [attempt_of_ok (stage_file_of_ok ht hw ((openFile_withConsole ..).trans ho')),
            attempt_of_ok (stage_file_of_ok ht hw ((openFile_withConsole ..).trans ho))]
          exact ⟨rfl, fun _ => rfl, fun _ => rfl⟩

/-- A call on a journal that is not configured comes to the same as on a new one. -/
theorem sameOutcome_answer {j : Journal} (h : j.configured = false) (call : Call) :
    SameOutcome (answer m settings j call) (answer m settings {} call) := by
  have hfacing : (j.facing call).configured = false := h
  have hnew : (facing {} call).configured = false := rfl
  rw [answer_eq, answer_eq]
  exact sameOutcome_configure hfacing hnew rfl rfl _

/-! ### Handlers -/

/-- One handler at most for the console, and one for a file. -/
structure AtMostOne (handlers : List Handler) : Prop where
  console : handlers.countP (·.destination.isConsole) ≤ 1
  file : handlers.countP (·.destination.isFile) ≤ 1

theorem atMostOne_nil : AtMostOne [] := ⟨by simp, by simp⟩

@[simp] theorem isConsole_file (place : Option Place) :
    (Destination.file place).isConsole = false := rfl

@[simp] theorem isFile_file (place : Option Place) :
    (Destination.file place).isFile = true := rfl

@[simp] theorem isConsole_consoleDestination (settings : Settings) :
    settings.consoleDestination.isConsole = true := by
  unfold Settings.consoleDestination
  split <;> rfl

@[simp] theorem isFile_consoleDestination (settings : Settings) :
    settings.consoleDestination.isFile = false := by
  unfold Settings.consoleDestination
  split <;> rfl

/-- There is room for the handlers that stages are still to add. -/
structure Room (stages : List Stage) (handlers : List Handler) : Prop where
  console : handlers.countP (·.destination.isConsole) + stages.count .console ≤ 1
  file : handlers.countP (·.destination.isFile) + stages.count .file ≤ 1

theorem Room.atMostOne {stages : List Stage} {handlers : List Handler}
    (h : Room stages handlers) : AtMostOne handlers :=
  ⟨Nat.le_trans (Nat.le_add_right ..) h.console, Nat.le_trans (Nat.le_add_right ..) h.file⟩

theorem Room.of_cons {s : Stage} {rest : List Stage} {handlers : List Handler}
    (h : Room (s :: rest) handlers) : Room rest handlers := by
  have hconsole := h.console
  have hfile := h.file
  rw [List.count_cons] at hconsole hfile
  exact ⟨by omega, by omega⟩

theorem Room.console_handler {rest : List Stage} {handlers : List Handler}
    (h : Room (.console :: rest) handlers) {handler : Handler}
    (hc : handler.destination.isConsole) (hf : handler.destination.isFile = false) :
    Room rest (handlers ++ [handler]) := by
  have hconsole := h.console
  rw [List.count_cons_self] at hconsole
  constructor
  · simp only [List.countP_append, List.countP_singleton, hc, if_true]
    omega
  · simpa [hf] using h.of_cons.file

theorem Room.file_handler {rest : List Stage} {handlers : List Handler}
    (h : Room (.file :: rest) handlers) {handler : Handler}
    (hc : handler.destination.isConsole = false) (hf : handler.destination.isFile) :
    Room rest (handlers ++ [handler]) := by
  have hfile := h.file
  rw [List.count_cons_self] at hfile
  constructor
  · simpa [hc] using h.of_cons.console
  · simp only [List.countP_append, List.countP_singleton, hf, if_true]
    omega

/-- A stage fills no more than its own room. -/
theorem room_stage {j : Journal} {s : Stage} {rest : List Stage} (h : Room (s :: rest) j.handlers)
    (request : Request) : Room rest (j.stage m settings request s).1.handlers := by
  cases s with
  | level =>
    simp only [stage, setLevel]
    split
    · exact h.of_cons
    · exact h.of_cons
  | clear =>
    obtain ⟨hconsole, hfile⟩ := h.of_cons
    exact ⟨by simpa [stage] using Nat.le_trans (Nat.le_add_left ..) hconsole,
      by simpa [stage] using Nat.le_trans (Nat.le_add_left ..) hfile⟩
  | console =>
    simp only [stage, addConsole]
    split
    · exact h.of_cons
    · split
      · exact h.console_handler (by simp) (by simp)
      · exact h.of_cons
  | file =>
    simp only [stage, addFile]
    split
    · exact h.of_cons
    · split
      · split
        · exact h.of_cons
        · exact h.file_handler (by simp) (by simp)
      · exact h.of_cons
  | finish => exact h.of_cons

theorem atMostOne_row {j : Journal} {stages : List Stage} (h : Room stages j.handlers)
    (request : Request) : ∀ j' ∈ row m settings request j stages, AtMostOne j'.handlers := by
  induction stages generalizing j with
  | nil => simpa [row] using h.atMostOne
  | cons s rest ih =>
    have hstage : Room rest (j.stage m settings request s).1.handlers := room_stage h request
    rcases hs : j.stage m settings request s with ⟨j', e | ⟨⟩⟩
    · rw [hs] at hstage
      rw [row_of_error hs]
      simp only [List.forall_mem_cons]
      exact ⟨h.atMostOne, hstage.atMostOne, by simp⟩
    · rw [hs] at hstage
      rw [row_of_ok hs]
      simp only [List.forall_mem_cons]
      exact ⟨h.atMostOne, ih hstage⟩

/-- All that a journal passes through while it is configured, from one with one handler of a kind
at most. -/
theorem atMostOne_row_all {j : Journal} (h : AtMostOne j.handlers) (request : Request) :
    ∀ j' ∈ row m settings request j Stage.all, AtMostOne j'.handlers := by
  have hcleared : Room [.console, .file, .finish] [] := ⟨by decide, by decide⟩
  cases hl : Level.ofName (request.levelName settings) with
  | error taken =>
    have hlevel : j.stage m settings request .level = (j, .error (.level taken)) := by
      simp only [stage, setLevel, hl]
    rw [Stage.all, row_of_error hlevel]
    simp only [List.forall_mem_cons]
    exact ⟨h, h, by simp⟩
  | ok level =>
    have hlevel : j.stage m settings request .level = ({ j with level }, .ok ()) :=
      stage_level_of_ok hl
    have hclear : { j with level }.stage m settings request .clear
        = ({ j with level, handlers := [] }, .ok ()) := rfl
    rw [Stage.all, row_of_ok hlevel, row_of_ok hclear]
    simp only [List.forall_mem_cons]
    exact ⟨h, h, atMostOne_row hcleared request⟩

theorem atMostOne_during {j : Journal} (h : AtMostOne j.handlers) (call : Call) :
    ∀ j' ∈ during m settings j call, AtMostOne j'.handlers := by
  have hfacing : AtMostOne (j.facing call).handlers := h
  unfold during
  split
  · simpa using hfacing
  · exact atMostOne_row_all hfacing _

theorem atMostOne_answer {j : Journal} (h : AtMostOne j.handlers) (call : Call) :
    AtMostOne (answer m settings j call).1.handlers :=
  atMostOne_during h call _ (List.mem_of_getLast? (getLast?_during j call))

theorem atMostOne_passed {j : Journal} (h : AtMostOne j.handlers) (calls : List Call) :
    ∀ j' ∈ passed m settings j calls, AtMostOne j'.handlers := by
  induction calls generalizing j with
  | nil => simpa [passed] using h
  | cons call rest ih =>
    rw [passed, List.forall_mem_cons, List.forall_mem_append]
    exact ⟨h, atMostOne_during h call, ih (atMostOne_answer h call)⟩

/-! ### Runs -/

/-- What holds of a journal after calls, and at every moment of them. -/
structure ConfiguredOnce (m : Machine) (settings : Settings) (start : Journal)
    (calls : List Call) : Prop where
  configured : (reached m settings start calls).configured ↔
    .ok () ∈ results m settings start calls
  kept : (reached m settings start calls).configured →
    ∀ more, Kept m settings (reached m settings start calls) more
  failed : ∀ call e, (answer m settings (reached m settings start calls) call).2 = .error e →
    (answer m settings (reached m settings start calls) call).1.configured = false
  afresh : (reached m settings start calls).configured = false → ∀ call,
    SameOutcome (answer m settings (reached m settings start calls) call)
      (answer m settings {} call)
  last : (passed m settings start calls).getLast? = some (reached m settings start calls)
  handlers : ∀ j ∈ passed m settings start calls, AtMostOne j.handlers

theorem configured_once (m : Machine) {start : Journal} (hs : start.configured = false)
    (hone : AtMostOne start.handlers) (settings : Settings) (calls : List Call) :
    ConfiguredOnce m settings start calls where
  configured := by simp [configured_reached_iff, hs]
  kept h := kept_of_configured h
  failed call e h := by
    have hstep : (answer m settings (reached m settings start calls) call).1.configured ↔ _ :=
      configured_answer_iff (reached m settings start calls) call
    rw [h] at hstep
    simpa using hstep
  afresh h := sameOutcome_answer h
  last := getLast?_passed start calls
  handlers := atMostOne_passed hone calls

/-- Three calls fail, each at another place, before one for a logger returns; the last one asks for
more than is there by then. -/
theorem configured_once_at_fourth :
    let m : Machine := ⟨1, 0x7F0000000000, 0x100000, by decide, by decide, by decide⟩
    let calls : List Call :=
      [{ request := some { level := some "basic_format" } },
       { request := some { level := some "debug", file := some true, path := some "a\x00/b" } },
       { request := some { file := some true },
         outside := some (.access ⟨.isDirectory, some "logs"⟩) },
       { request := none },
       { request := some { level := some "ERROR", file := some true } }]
    ({} : Journal).configured = false ∧ AtMostOne ({} : Journal).handlers ∧
      ConfiguredOnce m {} {} calls ∧
      results m {} {} calls = [.error (.level .template), .error (.file (.badPath .null)),
        .error (.file (.access ⟨.isDirectory, some "logs"⟩)), .ok (), .ok ()] ∧
      (reached m {} {} calls).level = Level.info ∧
      (reached m {} {} calls).handlers.map (·.destination) = [.highlightedConsole] := by
  intro m calls
  exact ⟨rfl, atMostOne_nil, configured_once m rfl atMostOne_nil {} calls, rfl, by decide +kernel,
    by decide +kernel⟩

end NodeSettings.Log.Journal
