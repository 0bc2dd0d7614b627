import NodeSettings.Proofs.Reload.Settings
import NodeSettings.Session

/-!
# Reloads throughout a session

In a session of reloads, among files and variables that change at will, no field but the three
settings of a running node ever changes. Each setting ends with the number that the last successful
reload found under its key, or as it was at first if no reload found one. A reload that fails
changes nothing, whatever else its bindings say.
-/

namespace NodeSettings

/-- Bindings in which every bound setting is a number from zero on. -/
def Bindings.Acceptable (bindings : Bindings) : Prop :=
  ∀ (field : HotField) (raw : Text), bindings.get? field.key = some raw →
    ∃ n, Decimal.parse raw = .ok n ∧ 0 ≤ n

theorem Bindings.acceptable_iff {bindings : Bindings} :
    bindings.Acceptable ↔ HotField.all.findSome? (HotField.failure? bindings) = none := by
  rw [List.findSome?_eq_none_iff]
  constructor
  · intro h field _
    rw [HotField.failure?_eq_none_iff]
    intro raw hb
    obtain ⟨n, hp, hn⟩ := h field raw hb
    exact ⟨n, HotField.read_eq_ok_iff.mpr ⟨hp, hn⟩⟩
  · intro h field raw hb
    obtain ⟨n, hr⟩ := HotField.failure?_eq_none_iff.mp (h field (HotField.mem_all field)) raw hb
    exact ⟨n, HotField.read_eq_ok_iff.mp hr⟩

namespace Session

/-! ### Steps that reload -/

/-- A step that reloads settings, or that leaves the configuration alone. -/
def Step.Reloads : Step → Prop
  | .begin _ | .assign _ | .appendSeed _ | .updateHot _ | .applyProperties _ | .override _
  | .normalize _ | .load | .loadConfig .. => False
  | _ => True

/-- The bindings of a file, if it is there and without fault. -/
def bindingsAt? (session : Session) (path : Option Text) : Option Bindings :=
  path.bind fun path => (readProperties session.files.read path).toOption

/-- The bindings that a step takes settings from. -/
def input? (session : Session) : Step → Option Bindings
  | .applyHot bindings => some bindings
  | .reload path => session.bindingsAt? path
  | .reloadLocated => session.bindingsAt? (session.location.map Path.text)
  | _ => none

def Succeeds (session : Session) (s : Step) : Prop := ∃ reply, (session.step s).2.result = .ok reply

theorem not_succeeds {session : Session} {s : Step} {e : Failure}
    (h : (session.step s).2.result = .error e) : ¬ session.Succeeds s := by
  rintro ⟨reply, hok⟩
  rw [h] at hok
  cases hok

/-- A step that changes settings only: none if it fails, and otherwise those that its input binds,
each to the number in its text. -/
structure Reloaded (session : Session) (s : Step) : Prop where
  frame : ∃ hot, (session.step s).1.config = { session.config with hot }
  failed : ¬ session.Succeeds s → (session.step s).1.config = session.config
  settings : session.Succeeds s → ∀ field : HotField,
    match (session.input? s).bind (·.get? field.key) with
    | some raw => Decimal.parse raw = .ok ((session.step s).1.config.hot.get field)
    | none => (session.step s).1.config.hot.get field = session.config.hot.get field
  accepted : ∀ bindings, session.input? s = some bindings →
    (session.Succeeds s ↔ bindings.Acceptable)

theorem reloaded_of_unchanged {session : Session} {s : Step} (hin : session.input? s = none)
    (h : (session.step s).1.config = session.config) : Reloaded session s where
  frame := ⟨session.config.hot, h⟩
  failed _ := h
  settings _ field := by
    rw [hin, h]
    rfl
  accepted bindings hb := by
    rw [hin] at hb
    cases hb

/-- A step that ends as its bindings are applied, and takes over what they make of the
configuration. -/
theorem reloaded_of_bindings {session : Session} {s : Step} {bindings : Bindings}
    (hin : session.input? s = some bindings)
    (hc : (session.step s).1.config = (NodeSettings.applyHot bindings session.config).1)
    (hr : match (NodeSettings.applyHot bindings session.config).2.result with
      | .ok _ => session.Succeeds s
      | .error _ => ¬ session.Succeeds s) : Reloaded session s := by
  have ha := applyHot_cases bindings session.config
  cases hf : HotField.all.findSome? (HotField.failure? bindings) with
  | some e =>
    simp only [hf] at ha
    simp only [ha.1] at hr
    rw [ha.2] at hc
    have hna : ¬ bindings.Acceptable := by
      rw [Bindings.acceptable_iff, hf]
      simp
    refine ⟨⟨session.config.hot, hc⟩, fun _ => hc, fun hs => absurd hs hr, fun b hb => ?_⟩
    rw [hin] at hb
    cases hb
    exact iff_of_false hr hna
  | none =>
    simp only [hf] at ha
    obtain ⟨hot, hok, hnew, ht⟩ := ha
    simp only [hok] at hr
    rw [hnew] at hc
    refine ⟨⟨hot, hc⟩, fun hns => absurd hr hns, fun _ field => ?_, fun b hb => ?_⟩
    · rw [hin, hc, Option.bind_some]
      have hfield := ht field
      unfold HotField.Takes at hfield
      cases hb : bindings.get? field.key with
      | none => simpa only [hb] using hfield
      | some raw =>
        simp only [hb] at hfield
        exact (HotField.read_eq_ok_iff.mp hfield).1
    · rw [hin] at hb
      cases hb
      exact iff_of_true hr (Bindings.acceptable_iff.mpr hf)

theorem reloaded_applyHot (session : Session) (bindings : Bindings) :
    Reloaded session (.applyHot bindings) := by
  refine reloaded_of_bindings rfl rfl ?_
  cases ha : (NodeSettings.applyHot bindings session.config).2.result with
  | error e =>
    have hresult : (session.step (.applyHot bindings)).2.result = .error (.reload e) := by
      rw [step, settle_of_error session ha]
    exact not_succeeds hresult
  | ok hot =>
    have hresult : (session.step (.applyHot bindings)).2.result = .ok (.hot (some hot)) := by
      rw [step, settle_of_ok session ha]
      rfl
    exact ⟨_, hresult⟩

theorem reloaded_reloadFrom {session : Session} {s : Step} {path : Option Text}
    (hs : session.step s = session.reloadFrom path)
    (hin : session.input? s = session.bindingsAt? path) : Reloaded session s := by
  cases path with
  | none =>
    refine reloaded_of_unchanged hin ?_
    rw [hs]
    rfl
  | some path =>
    cases hp : readProperties session.files.read path with
    | error e =>
      have hnone : session.input? s = none := by
        simp only [hin, bindingsAt?, Option.bind_some, hp, Except.toOption]
      refine reloaded_of_unchanged hnone ?_
      rw [hs, reloadFrom, reload_of_unread hp]
      rfl
    | ok bindings =>
      have hsome : session.input? s = some bindings := by
        simp only [hin, bindingsAt?, Option.bind_some, hp, Except.toOption]
      rw [reloadFrom, reload_of_read hp] at hs
      refine reloaded_of_bindings hsome (by rw [hs]; rfl) ?_
      cases ha : (NodeSettings.applyHot bindings session.config).2.result with
      | error e =>
        have hresult : (session.step s).2.result = .error (.reload e) := by
          rw [hs, settle_of_error session (by simp only [Outcome.map, Outcome.after, ha]; rfl)]
        exact not_succeeds hresult
      | ok hot =>
        have hresult : (session.step s).2.result = .ok (.hot (some hot)) := by
          rw [hs, settle_of_ok session (by simp only [Outcome.map, Outcome.after, ha]; rfl)]
        exact ⟨_, hresult⟩

theorem reloaded_step (session : Session) {s : Step} (hs : s.Reloads) : Reloaded session s := by
  cases s with
  | begin | assign | appendSeed | updateHot | applyProperties | override | normalize | load
  | loadConfig => exact hs.elim
  | applyHot bindings => exact reloaded_applyHot session bindings
  | reload path => exact reloaded_reloadFrom rfl rfl
  | reloadLocated => exact reloaded_reloadFrom rfl rfl
  | validate | remove | readProperties =>
    refine reloaded_of_unchanged rfl ?_
    simp only [step]
    split <;> rfl
  | get | getHot | holdHot | heldHot | write | setVariable | locate =>
    exact reloaded_of_unchanged rfl rfl

/-! ### Runs -/

/-- The session that steps lead to. -/
def reached (session : Session) (steps : List Step) : Session :=
  steps.foldl (fun session s => (session.step s).1) session

/-- The number that a step gives to a setting: that in the text its input binds, if the step
succeeds. -/
def given? (session : Session) (field : HotField) (s : Step) : Option Int :=
  match (session.step s).2.result with
  | .error _ => none
  | .ok _ =>
    ((session.input? s).bind (·.get? field.key)).bind fun raw => (Decimal.parse raw).toOption

/-- The number that the last of the steps to give one gives to a setting. -/
def lastGiven? (session : Session) (field : HotField) : List Step → Option Int
  | [] => none
  | s :: rest => (lastGiven? (session.step s).1 field rest).or (session.given? field s)

theorem Reloaded.get {session : Session} {s : Step} (h : Reloaded session s) (field : HotField) :
    (session.step s).1.config.hot.get field
      = (session.given? field s).getD (session.config.hot.get field) := by
  unfold given?
  cases hr : (session.step s).2.result with
  | error e =>
    rw [h.failed (not_succeeds hr)]
    rfl
  | ok reply =>
    have hset := h.settings ⟨reply, hr⟩ field
    cases hb : (session.input? s).bind (·.get? field.key) with
    | none =>
      simp only [hb] at hset
      exact hset
    | some raw =>
      simp only [hb] at hset
      simp only [Option.bind_some, hset]
      rfl

theorem get_reached {session : Session} {steps : List Step} (hs : ∀ s ∈ steps, s.Reloads)
    (field : HotField) :
    (session.reached steps).config.hot.get field
      = (session.lastGiven? field steps).getD (session.config.hot.get field) := by
  -- what the first step gives counts only if no later step gives anything
  induction steps generalizing session with
  | nil => rfl
  | cons s rest ih =>
    have hstep := (reloaded_step session (hs s List.mem_cons_self)).get field
    have hrest : ((session.step s).1.reached rest).config.hot.get field = _ :=
      ih fun s' h => hs s' (List.mem_cons_of_mem s h)
    show ((session.step s).1.reached rest).config.hot.get field = _
    rw [hrest, hstep, lastGiven?]
    cases lastGiven? (session.step s).1 field rest <;> rfl

theorem frame_run {session : Session} {steps : List Step} (hs : ∀ s ∈ steps, s.Reloads) :
    ∀ after ∈ session.run steps, ∃ hot, after.2 = { session.config with hot } := by
  induction steps generalizing session with
  | nil => simp [run]
  | cons s rest ih =>
    obtain ⟨hot, hc⟩ := (reloaded_step session (hs s List.mem_cons_self)).frame
    intro after ha
    rcases List.mem_cons.mp ha with rfl | ha
    · exact ⟨hot, hc⟩
    · obtain ⟨hot', hc'⟩ := ih (fun s' h => hs s' (List.mem_cons_of_mem s h)) after ha
      rw [hc] at hc'
      exact ⟨hot', hc'⟩

/-- A run in which only settings change. Each ends with the last number that a step gave to it, and
a step that fails, as a step with an input does exactly where that is not acceptable, changes
nothing. -/
structure OnlyReloaded (session : Session) (steps : List Step) : Prop where
  frame : ∀ after ∈ session.run steps, ∃ hot, after.2 = { session.config with hot }
  settings : ∀ field, (session.reached steps).config.hot.get field
    = (session.lastGiven? field steps).getD (session.config.hot.get field)
  failed : ∀ before s rest, steps = before ++ s :: rest →
    ∀ e, ((session.reached before).step s).2.result = .error e →
      ((session.reached before).step s).1.config = (session.reached before).config
  accepted : ∀ before s rest, steps = before ++ s :: rest →
    ∀ bindings, (session.reached before).input? s = some bindings →
      ((session.reached before).Succeeds s ↔ bindings.Acceptable)

theorem reloads_throughout {session : Session} {steps : List Step} (hs : ∀ s ∈ steps, s.Reloads) :
    session.OnlyReloaded steps where
  frame := frame_run hs
  settings := get_reached hs
  failed := by
    rintro before s rest rfl e he
    exact (reloaded_step (session.reached before) (hs s (by simp))).failed (not_succeeds he)
  accepted := by
    rintro before s rest rfl
    exact (reloaded_step (session.reached before) (hs s (by simp))).accepted

theorem reloads_throughout_mixed :
    let session : Session := { config := { localIp := "node" } }
    let steps : List Step :=
      [.applyHot [("MAX_CONCURRENT_CLIENT_NUM", "5"), ("LOCAL_IP", "other")],
       .write "p" (.file (Utf8.ofString "CONNECTION_TIME_OUT_MS=7\nMAX_REMOVED_LOG_SIZE=-1\n")),
       .reload (some "p"), .write "p" (.file [0xFF]), .reload (some "p"),
       .write "p" (.file (Utf8.ofString "CONNECTION_TIME_OUT_MS=' +8'\n")), .reload (some "p"),
       .remove "p", .reload (some "p")]
    (∀ s ∈ steps, s.Reloads) ∧ session.OnlyReloaded steps ∧
      (session.run steps).map (fun after => after.1.result.toOption.isSome)
        = [true, true, false, true, false, true, true, true, false] ∧
      (session.reached steps).config
        = { localIp := "node", hot := { maxClients := 5, connectionTimeout := 8 } } := by
  intro session steps
  have hs : ∀ s ∈ steps, s.Reloads := by simp [steps, Step.Reloads]
  exact ⟨hs, reloads_throughout hs, by decide +kernel, by decide +kernel⟩

end Session

end NodeSettings
