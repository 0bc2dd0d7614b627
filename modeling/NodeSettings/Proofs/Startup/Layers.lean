import NodeSettings.Proofs.CommandLine.Occurrences
import NodeSettings.Proofs.Property.Overlay
import NodeSettings.Startup
import Mathlib.Control.Monad.Basic

/-!
# The layers of a configuration

A configuration that is made of all layers has, property by property, the value that its flag is
given last on a command line that is taken, or else the value of its last binding in the properties
file, or else the built-in value. A command line that is not taken counts as an empty one.
-/

namespace NodeSettings

/-- The text that a document binds to a key: that of the last binding, empty for a key without a
value. -/
def Document.lastValue? (document key : Text) : Option Text :=
  ((Document.pairs document).reverse.lookup key).map (·.getD [])

theorem applyProperties_eq_ok_iff {bindings : Bindings} {c c' : NodeConfig} :
    applyProperties bindings c = (c', .ok ()) ↔ Overlay.apply bindings c = (c', .ok ()) := by
  unfold applyProperties
  rcases Overlay.apply bindings c with ⟨d, _ | _⟩ <;> simp [Except.mapError]

namespace Startup

/-- The text of the properties file, if there is one that is read. -/
def document? (read : FileReader) (location : Option Path) : Option Text :=
  location.bind fun path =>
    match read path.text with
    | .ok octets => (Utf8.decode octets).toOption
    | .error _ => none

/-- The flags of a command line with their values, none if the command line is not taken. -/
def taken (arguments : List Text) : List (CommandLine.Flag × Text) :=
  match CommandLine.parse arguments with
  | .ok _ => CommandLine.occurrences arguments
  | .error _ => []

/-- The value of a property in the layers, from the last flag, the last binding or neither. -/
def layered (flags : List (CommandLine.Flag × Text)) (document? : Option Text) (p : Property) :
    Option p.kind.Value :=
  match CommandLine.lastValue? flags p with
  | some raw => CommandLine.readOverride? p raw
  | none =>
    match document?.bind (Document.lastValue? · p.key) with
    | some raw => (p.read raw).toOption
    | none => some (p.get {})

/-! ### The properties file -/

theorem get?_of_bindings {document : Text} {bindings : Bindings}
    (h : Document.bindings document = .ok bindings) (key : Text) :
    bindings.get? key = Document.lastValue? document key := by
  simp only [Document.bindings] at h
  split at h
  · cases h
  · cases h
    rw [Bindings.get?_eq_lookup, Document.lastValue?, ← List.map_reverse]
    induction (Document.pairs document).reverse with
    | nil => rfl
    | cons pair rest ih =>
      obtain ⟨name, value?⟩ := pair
      by_cases hk : key == name
      · simp [List.lookup_cons, hk]
      · simp only [List.map_cons, List.lookup_cons, hk]
        exact ih

theorem checkValid_eq_ok_iff {c : NodeConfig} : checkValid c = .ok () ↔ c.validate = .ok () := by
  unfold checkValid
  cases c.validate <;> simp [Except.mapError]

theorem apply_of_configure {bindings : Bindings} {c : NodeConfig} (h : configure bindings = .ok c) :
    Overlay.apply bindings {} = (c, .ok ()) ∧ c.validate = .ok () := by
  unfold configure at h
  rcases ha : applyProperties bindings {} with ⟨base, result⟩
  cases result with
  | error e =>
    rw [ha] at h
    cases h
  | ok _ =>
    rw [ha] at h
    cases hv : checkValid base with
    | error e =>
      simp only [hv] at h
      cases h
    | ok _ =>
      simp only [hv] at h
      cases h
      exact ⟨applyProperties_eq_ok_iff.mp ha, checkValid_eq_ok_iff.mp hv⟩

theorem result_load (read : FileReader) (path : Path) :
    (load read (some path)).result
      = match readProperties read path.text with
        | .error (.unopened (.access _)) => .ok {}
        | .error (.unopened (.badPath flaw)) => .error (.badPath flaw)
        | .error (.refused flaw) => .error (.refused (.refused path.text flaw))
        | .ok bindings => configure bindings := by
  simp only [load, loadFile]
  cases readProperties read path.text with
  | ok bindings => rfl
  | error e =>
    cases e with
    | refused flaw => rfl
    | unopened e => cases e <;> rfl

/-- What is loaded is built in, or comes from a document without fault and is valid. -/
theorem load_eq_ok {read : FileReader} {location : Option Path} {c : NodeConfig}
    (h : (load read location).result = .ok c) :
    (document? read location = none ∧ c = {}) ∨
      ∃ document bindings, document? read location = some document ∧
        Document.bindings document = .ok bindings ∧ Overlay.apply bindings {} = (c, .ok ()) ∧
        c.validate = .ok () := by
  cases location with
  | none =>
    cases h
    exact .inl ⟨rfl, rfl⟩
  | some path =>
    simp only [load, loadFile, readProperties] at h
    cases hread : read path.text with
    | error e =>
      cases e with
      | access e =>
        simp only [hread] at h
        cases h
        exact .inl ⟨by simp [document?, hread], rfl⟩
      | badPath flaw =>
        simp only [hread] at h
        cases h
    | ok octets =>
      simp only [hread, readContent] at h
      cases hdec : Utf8.decode octets with
      | error flaw => simp [hdec] at h
      | ok document =>
        cases hb : Document.bindings document with
        | error line => simp [hdec, hb] at h
        | ok bindings =>
          simp only [hdec, hb] at h
          obtain ⟨happly, hv⟩ := apply_of_configure h
          refine .inr ⟨document, bindings, ?_, hb, happly, hv⟩
          simp [document?, hread, hdec, Except.toOption]

theorem lastValue?_nil (p : Property) : CommandLine.lastValue? [] p = none := by
  cases p <;> rfl

theorem layered_of_none {flags : List (CommandLine.Flag × Text)} {p : Property}
    (h : CommandLine.lastValue? flags p = none) (document? : Option Text) :
    layered flags document? p = layered [] document? p := by
  simp only [layered, h, lastValue?_nil]

theorem layered_of_load {read : FileReader} {location : Option Path} {c : NodeConfig}
    (h : (load read location).result = .ok c) (p : Property) :
    layered [] (document? read location) p = some (p.get c) := by
  simp only [layered, lastValue?_nil]
  rcases load_eq_ok h with ⟨hd, rfl⟩ | ⟨document, bindings, hd, hb, happly, -⟩
  · simp [hd]
  · have ht := Overlay.takes_of_apply happly p
    rw [Overlay.Takes, get?_of_bindings hb] at ht
    rw [hd, Option.bind_some]
    cases hl : Document.lastValue? document p.key with
    | none =>
      simp only [hl] at ht ⊢
      rw [ht]
    | some raw =>
      simp only [hl] at ht ⊢
      rw [ht]
      rfl

/-! ### The command line -/

/-- The configuration of all layers is what was loaded, with the overrides of the command line if
that is taken. -/
theorem loadConfig_eq_ok {read : FileReader} {configDirectory : Option Text} {env : Environment}
    {arguments : List Text} {c : NodeConfig}
    (h : (loadConfig read configDirectory env arguments).result = .ok c) :
    ∃ base, (load read (Location.locate configDirectory none env)).result = .ok base ∧
      c = (match CommandLine.parse arguments with
        | .ok o => o.apply base
        | .error _ => base) := by
  simp only [loadConfig, findLocation, Outcome.after] at h
  cases hl : (load read (Location.locate configDirectory none env)).result with
  | error e =>
    simp only [hl] at h
    cases h
  | ok base =>
    refine ⟨base, rfl, ?_⟩
    simp only [hl] at h
    cases arguments with
    | nil =>
      simp only [List.isEmpty_nil, if_true] at h
      cases h
      rfl
    | cons argument rest =>
      simp only [List.isEmpty_cons, Bool.false_eq_true, if_false, overrideOrKeep, override] at h
      cases hp : CommandLine.parse (argument :: rest) with
      | error fault =>
        simp only [hp] at h
        cases h
        rfl
      | ok o =>
        simp only [hp] at h
        cases h
        rfl

/-- Every property has the value of the first of its layers that gives it one, and a command line
that is not taken gives none. -/
theorem loadConfig_layered {read : FileReader} {configDirectory : Option Text} {env : Environment}
    {arguments : List Text} {c : NodeConfig}
    (h : (loadConfig read configDirectory env arguments).result = .ok c) :
    (∀ p : Property,
      layered (taken arguments) (document? read (Location.locate configDirectory none env)) p
        = some (p.get c)) ∧
    ∀ fault, CommandLine.parse arguments = .error fault →
      (loadConfig read configDirectory env []).result = .ok c := by
  obtain ⟨base, hbase, hc⟩ := loadConfig_eq_ok h
  refine ⟨fun p => ?_, fun fault hfault => ?_⟩
  · have hfile := layered_of_load hbase p
    cases hp : CommandLine.parse arguments with
    | error fault =>
      simp only [hp] at hc
      simp only [taken, hp, hc]
      exact hfile
    | ok o =>
      simp only [hp] at hc
      have hget := CommandLine.get_apply_of_parse hp base p
      simp only [taken, hp, hc]
      cases hl : CommandLine.lastValue? (CommandLine.occurrences arguments) p with
      | some raw =>
        simp only [hl] at hget
        simp only [layered, hl, hget]
      | none =>
        simp only [hl] at hget
        rw [layered_of_none hl, hfile, hget]
  · simp only [hfault] at hc
    simp only [loadConfig, findLocation, Outcome.after, hbase, List.isEmpty_nil, if_true, hc]

theorem loadConfig_layered_repeated :
    let read : FileReader := fun _ => .ok (Utf8.ofString
      "LOCAL_META_PORT=7\nLOCAL_META_PORT=8\nSEED_NODES\nQUERY_TIME_OUT_SEC=' 9'\n")
    let env : Environment := fun _ => none
    let arguments : List Text := ["--data_port=1", "--data_port", "+2"]
    let c : NodeConfig := { metaPort := 8, dataPort := 2, seeds := [], queryTimeout := 9 }
    (loadConfig read (some "conf") env arguments).result = .ok c ∧
      (∀ p : Property,
        layered (taken arguments) (document? read (Location.locate (some "conf") none env)) p
          = some (p.get c)) ∧
      ∀ fault, CommandLine.parse arguments = .error fault →
        (loadConfig read (some "conf") env []).result = .ok c := by
  intro read env arguments c
  have h : (loadConfig read (some "conf") env arguments).result = .ok c := by decide +kernel
  exact ⟨h, loadConfig_layered h⟩

end Startup

end NodeSettings
