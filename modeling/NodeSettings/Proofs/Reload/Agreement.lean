import NodeSettings.Proofs.Config.Validity

/-!
# Starting and reloading agree

A properties file with which a node starts is never refused by a reload, whatever node it is
reloaded into. The settings that the file binds are then those that the node started with, and the
others stay; reloaded into the node that it started, the file changes nothing.
-/

namespace NodeSettings

namespace Startup

theorem readProperties_of_read {read : FileReader} {path : Text} {octets : List UInt8}
    {bindings : Bindings} (hr : read path = .ok octets) (hc : readContent octets = .ok bindings) :
    readProperties read path = .ok bindings := by
  simp only [readProperties, hr, hc]

/-- A file that is read and loaded binds properties, and the configuration is what they make of
the built-in one. -/
theorem bindings_of_load {read : FileReader} {path : Path} {octets : List UInt8} {c : NodeConfig}
    (hr : read path.text = .ok octets) (h : (load read (some path)).result = .ok c) :
    ∃ bindings, readContent octets = .ok bindings ∧ Overlay.apply bindings {} = (c, .ok ()) ∧
      c.Valid := by
  rw [result_load] at h
  cases hc : readContent octets with
  | error flaw =>
    have hp : readProperties read path.text = .error (.refused flaw) := by
      simp only [readProperties, hr, hc]
    rw [hp] at h
    cases h
  | ok bindings =>
    rw [readProperties_of_read hr hc] at h
    obtain ⟨happly, hv⟩ := apply_of_configure h
    exact ⟨bindings, rfl, happly, NodeConfig.validate_eq_ok_iff.mp hv⟩

/-- A reload reads a setting of a valid configuration as the start read it. -/
theorem read_of_apply {bindings : Bindings} {c : NodeConfig}
    (h : Overlay.apply bindings {} = (c, .ok ())) (hv : c.Valid) {field : HotField} {raw : Text}
    (hb : bindings.get? field.key = some raw) : field.read raw = .ok (c.hot.get field) := by
  have ht := Overlay.takes_of_apply h (.hot field)
  have hkey : bindings.get? (Property.hot field).key = some raw := hb
  simp only [Overlay.Takes, hkey] at ht
  have hread : readInteger raw = .ok (c.hot.get field) := ht
  exact HotField.read_eq_ok_iff.mpr ⟨readInteger_eq_ok_iff.mp hread, hv.hot field⟩

theorem applyHot_of_apply {bindings : Bindings} {c : NodeConfig}
    (h : Overlay.apply bindings {} = (c, .ok ())) (hv : c.Valid) (d : NodeConfig) :
    ∃ hot, (applyHot bindings d).2.result = .ok hot ∧ (applyHot bindings d).1 = { d with hot } ∧
      ∀ field : HotField, hot.get field
        = if (bindings.get? field.key).isSome then c.hot.get field else d.hot.get field := by
  have hnone : HotField.all.findSome? (HotField.failure? bindings) = none := by
    rw [List.findSome?_eq_none_iff]
    intro field _
    rw [HotField.failure?_eq_none_iff]
    intro raw hb
    exact ⟨_, read_of_apply h hv hb⟩
  have ha := applyHot_cases bindings d
  simp only [hnone] at ha
  obtain ⟨hot, hok, hd, ht⟩ := ha
  refine ⟨hot, hok, hd, fun field => ?_⟩
  have hfield := ht field
  unfold HotField.Takes at hfield
  cases hb : bindings.get? field.key with
  | none =>
    simp only [hb] at hfield
    simpa using hfield
  | some raw =>
    simp only [hb, read_of_apply h hv hb, Except.ok.injEq] at hfield
    simpa using hfield.symm

/-- Content with which a node starts is taken by every reload: the settings that it binds become
those of the start, the others stay, and the node of the start does not change. -/
theorem reload_of_load {read read' : FileReader} {path : Path} {path' : Text}
    {octets : List UInt8} {c : NodeConfig} (hr : read path.text = .ok octets)
    (hr' : read' path' = .ok octets) (h : (load read (some path)).result = .ok c) :
    ∃ bindings, readContent octets = .ok bindings ∧
      (∀ d, ∃ hot, (reload read' (some path') d).2.result = .ok (some hot) ∧
        (reload read' (some path') d).1 = { d with hot } ∧
        ∀ field : HotField, hot.get field
          = if (bindings.get? field.key).isSome then c.hot.get field else d.hot.get field) ∧
      (reload read' (some path') c).2.result = .ok (some c.hot) ∧
      (reload read' (some path') c).1 = c := by
  obtain ⟨bindings, hc, happly, hv⟩ := bindings_of_load hr h
  have hall : ∀ d, ∃ hot, (reload read' (some path') d).2.result = .ok (some hot) ∧
      (reload read' (some path') d).1 = { d with hot } ∧
      ∀ field : HotField, hot.get field
        = if (bindings.get? field.key).isSome then c.hot.get field else d.hot.get field := by
    intro d
    obtain ⟨hot, hok, hd, hget⟩ := applyHot_of_apply happly hv d
    refine ⟨hot, ?_, ?_, hget⟩
    · rw [reload_of_read (readProperties_of_read hr' hc)]
      simp only [Outcome.map, Outcome.after, hok, Except.map]
    · rw [reload_of_read (readProperties_of_read hr' hc), hd]
  refine ⟨bindings, hc, hall, ?_⟩
  obtain ⟨hot, hok, hd, hget⟩ := hall c
  have hsame : hot = c.hot := by
    apply HotSettings.ext_get
    intro field
    rw [hget field, ite_self]
  rw [hok, hd, hsame]
  exact ⟨rfl, rfl⟩

theorem reload_of_load_repeated :
    let octets := Utf8.ofString
      ("MAX_CONCURRENT_CLIENT_NUM=' +007 '\nCONNECTION_TIME_OUT_MS=x\n"
        ++ "CONNECTION_TIME_OUT_MS=0\nKEY\n")
    let read : FileReader := fun _ => .ok octets
    let path : Path := ⟨[], ["conf"]⟩
    let c : NodeConfig := { hot := { maxClients := 7, connectionTimeout := 0 } }
    read path.text = .ok octets ∧ (load read (some path)).result = .ok c ∧
      ∃ bindings, readContent octets = .ok bindings ∧
        (∀ d, ∃ hot, (reload read (some "conf") d).2.result = .ok (some hot) ∧
          (reload read (some "conf") d).1 = { d with hot } ∧
          ∀ field : HotField, hot.get field
            = if (bindings.get? field.key).isSome then c.hot.get field else d.hot.get field) ∧
        (reload read (some "conf") c).2.result = .ok (some c.hot) ∧
        (reload read (some "conf") c).1 = c := by
  intro octets read path c
  have h : (load read (some path)).result = .ok c := by decide +kernel
  exact ⟨rfl, h, reload_of_load rfl rfl h⟩

end Startup

end NodeSettings
