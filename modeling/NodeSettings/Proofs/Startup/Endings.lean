import NodeSettings.Proofs.Document.Plain
import NodeSettings.Proofs.Reload.Settings
import NodeSettings.Proofs.Startup.Layers
import NodeSettings.Proofs.Text.Utf8

/-!
# How starts and reloads end

Whatever a properties file holds, a configuration is loaded or refused, a reload succeeds or is
refused, and a start ends with one of its two codes. There is one exception: the first property that
is refused may be an integer of more digits than are read. Then loading, reloading and starting
break off.
-/

namespace NodeSettings

/-! ### Breaking off -/

/-- Bindings of which the first property that is refused is an integer of too many digits. -/
def Bindings.BreakStart (bindings : Bindings) (count : Nat) : Prop :=
  ∃ before p after raw, Property.all = before ++ p :: after ∧
    (∀ q ∈ before, ∀ raw, bindings.get? q.key = some raw → ∃ value, q.read raw = .ok value) ∧
    bindings.get? p.key = some raw ∧ p.kind = .integer ∧ Oversized raw count

/-- Bindings of which the first setting that is refused is a number of too many digits. -/
def Bindings.BreakReload (bindings : Bindings) (count : Nat) : Prop :=
  ∃ before field after raw, HotField.all = before ++ field :: after ∧
    (∀ f ∈ before, ∀ raw, bindings.get? f.key = some raw → ∃ n, f.read raw = .ok n) ∧
    bindings.get? field.key = some raw ∧ Oversized raw count

theorem Bindings.breakStart_iff {bindings : Bindings} {count : Nat} :
    bindings.BreakStart count
      ↔ Property.all.findSome? (Overlay.failure? bindings) = some (.tooManyDigits count) := by
  rw [List.findSome?_eq_some_iff]
  constructor
  · rintro ⟨before, p, after, raw, hall, hbefore, hb, hk, ho⟩
    have hr := Property.read_eq_tooManyDigits_iff.mpr ⟨hk, ho⟩
    have hp := Overlay.failure?_eq_some_iff.mpr ⟨raw, _, hb, hr, rfl⟩
    exact ⟨before, p, after, hall, hp, fun q hq => Overlay.failure?_eq_none_iff.mpr (hbefore q hq)⟩
  · rintro ⟨before, p, after, hall, hp, hbefore⟩
    obtain ⟨raw, refusal, hb, hr, he⟩ := Overlay.failure?_eq_some_iff.mp hp
    cases refusal with
    | rejected why => cases he
    | tooManyDigits n =>
      cases he
      obtain ⟨hk, ho⟩ := Property.read_eq_tooManyDigits_iff.mp hr
      exact ⟨before, p, after, raw, hall,
        fun q hq => Overlay.failure?_eq_none_iff.mp (hbefore q hq), hb, hk, ho⟩

theorem Bindings.breakReload_iff {bindings : Bindings} {count : Nat} :
    bindings.BreakReload count
      ↔ HotField.all.findSome? (HotField.failure? bindings) = some (.tooManyDigits count) := by
  rw [List.findSome?_eq_some_iff]
  constructor
  · rintro ⟨before, field, after, raw, hall, hbefore, hb, ho⟩
    have hr : field.read raw = .error (.tooManyDigits count) :=
      HotField.read_eq_tooManyDigits_iff.mpr ho
    have hf := HotField.failure?_eq_some_iff.mpr ⟨raw, hb, hr⟩
    exact ⟨before, field, after, hall, hf,
      fun f hm => HotField.failure?_eq_none_iff.mpr (hbefore f hm)⟩
  · rintro ⟨before, field, after, hall, hf, hbefore⟩
    obtain ⟨raw, hb, hr⟩ := HotField.failure?_eq_some_iff.mp hf
    exact ⟨before, field, after, raw, hall,
      fun f hm => HotField.failure?_eq_none_iff.mp (hbefore f hm), hb,
      HotField.read_eq_tooManyDigits_iff.mp hr⟩

/-! ### Oversized integers break off -/

theorem Bindings.breakStart_singleton {p : Property} {raw : Text} {count : Nat}
    (hk : p.kind = .integer) (ho : Oversized raw count) :
    Bindings.BreakStart [(p.key, raw)] count := by
  -- the properties before `p` are not bound at all, as their keys are other ones
  obtain ⟨before, after, hall, hnot⟩ := List.eq_append_cons_of_mem p.mem_all
  refine ⟨before, p, after, raw, hall, fun q hq raw' hb => ?_, by simp [Bindings.get?], hk, ho⟩
  have he : p = q := Property.key_injective (Bindings.get?_singleton_iff.mp hb).1
  exact absurd (he ▸ hq) hnot

theorem Bindings.breakReload_singleton {field : HotField} {raw : Text} {count : Nat}
    (ho : Oversized raw count) : Bindings.BreakReload [(field.key, raw)] count := by
  obtain ⟨before, after, hall, hnot⟩ := List.eq_append_cons_of_mem (HotField.mem_all field)
  refine ⟨before, field, after, raw, hall, fun f hf raw' hb => ?_, by simp [Bindings.get?], ho⟩
  have hkey : (Property.hot field).key = (Property.hot f).key :=
    (Bindings.get?_singleton_iff.mp hb).1
  have he : field = f := Property.hot.inj (Property.key_injective hkey)
  exact absurd (he ▸ hf) hnot

theorem oversized_of_isDigits {digits : Text} (h : Text.isDigits digits)
    (hl : Decimal.maxDigits < digits.length) : Oversized digits digits.length :=
  ⟨.none, digits, Decimal.numeral_of_isDigits h, rfl, hl⟩

theorem ExitStatus.code_eq (status : ExitStatus) : status.code = 0 ∨ status.code = 1 := by
  cases status with
  | started => exact .inl rfl
  | refused => exact .inr rfl

/-! ### Files of one line -/

theorem plainKey_key (p : Property) :
    Document.PlainKey p.key ∧ p.key.head? ≠ some (.char '\uFEFF') := by
  have hall : ∀ p ∈ Property.all, p.key ≠ [] ∧ p.key.all Document.isKeyChar = true ∧
      p.key.head? ≠ some (.char '\'') ∧ p.key.head? ≠ some (.char '\uFEFF') := by decide +kernel
  obtain ⟨hne, hchars, hquote, hmark⟩ := hall p p.mem_all
  exact ⟨⟨hne, List.all_eq_true.mp hchars, hquote⟩, hmark⟩

theorem readProperties_of_line {read : FileReader} {path value : Text} {p : Property}
    (hv : Document.PlainValue value) (hr : read.Holds path (p.key ++ .char '=' :: value)) :
    readProperties read path = .ok [(p.key, value)] := by
  obtain ⟨octets, hread, hoctets⟩ := hr
  obtain ⟨hk, hmark⟩ := plainKey_key p
  have hb := Document.bindings_plain hk hmark hv
  simp only [readProperties, hread, readContent, Utf8.decode_of_encode hoctets, hb]

namespace Startup

/-! ### Loading -/

theorem configure_of_breakStart {bindings : Bindings} {count : Nat}
    (h : bindings.BreakStart count) : configure bindings = .error (.tooManyDigits count) := by
  have ha : Overlay.apply bindings {} = ({}, .error (.tooManyDigits count)) :=
    Overlay.apply_eq_error_iff.mpr ⟨rfl, Bindings.breakStart_iff.mp h⟩
  simp only [configure, applyProperties, ha]
  rfl

theorem configure_in_order {bindings : Bindings} (h : ∀ count, ¬ bindings.BreakStart count) :
    (∃ c, configure bindings = .ok c) ∨ ∃ e, configure bindings = .error (.refused e) := by
  rcases ha : Overlay.apply bindings {} with ⟨c, result⟩
  cases result with
  | error e =>
    cases e with
    | rejected p raw why =>
      refine .inr ⟨.rejected p raw why, ?_⟩
      simp only [configure, applyProperties, ha]
      rfl
    | tooManyDigits count =>
      have hfirst := (Overlay.apply_eq_error_iff.mp ha).2
      exact absurd (Bindings.breakStart_iff.mpr hfirst) (h count)
  | ok _ =>
    cases hv : c.validate with
    | ok u =>
      refine .inl ⟨c, ?_⟩
      simp only [configure, applyProperties, ha, checkValid, hv]
      rfl
    | error v =>
      refine .inr ⟨.invalid v, ?_⟩
      simp only [configure, applyProperties, ha, checkValid, hv]
      rfl

/-- A file on which a start breaks off. -/
def Breaks (read : FileReader) (path : Text) (count : Nat) : Prop :=
  ∃ bindings, readProperties read path = .ok bindings ∧ bindings.BreakStart count

/-- A file on which a reload breaks off. -/
def BreaksReload (read : FileReader) (path : Text) (count : Nat) : Prop :=
  ∃ bindings, readProperties read path = .ok bindings ∧ bindings.BreakReload count

theorem load_of_breaks {read : FileReader} {path : Path} {count : Nat}
    (h : Breaks read path.text count) :
    (load read (some path)).result = .error (.tooManyDigits count) := by
  obtain ⟨bindings, hb, hbreak⟩ := h
  rw [result_load, hb]
  exact configure_of_breakStart hbreak

theorem readProperties_ne_badPath {read : FileReader} {path : Text}
    (h : ∀ flaw, read path ≠ .error (.badPath flaw)) (flaw : PathFlaw) :
    readProperties read path ≠ .error (.unopened (.badPath flaw)) := by
  intro hp
  unfold readProperties at hp
  split at hp
  · rename_i e he
    cases hp
    exact h flaw he
  · split at hp <;> cases hp

theorem load_in_order {read : FileReader} {path : Path}
    (hpath : ∀ flaw, read path.text ≠ .error (.badPath flaw))
    (h : ∀ count, ¬ Breaks read path.text count) :
    (∃ c, (load read (some path)).result = .ok c) ∨
      ∃ e, (load read (some path)).result = .error (.refused e) := by
  rw [result_load]
  cases hp : readProperties read path.text with
  | error e =>
    cases e with
    | refused flaw => exact .inr ⟨_, rfl⟩
    | unopened e =>
      cases e with
      | access e => exact .inl ⟨_, rfl⟩
      | badPath flaw => exact absurd hp (readProperties_ne_badPath hpath flaw)
  | ok bindings => exact configure_in_order fun count hb => h count ⟨bindings, hp, hb⟩

/-! ### Reloading -/

theorem reload_of_breaks {read : FileReader} {path : Text} {count : Nat}
    (h : BreaksReload read path count) (c : NodeConfig) :
    (reload read (some path) c).2.result = .error (.tooManyDigits count) := by
  obtain ⟨bindings, hb, hbreak⟩ := h
  have ha := applyHot_cases bindings c
  simp only [Bindings.breakReload_iff.mp hbreak] at ha
  rw [reload_of_read hb]
  simp only [Outcome.map, Outcome.after, ha.1, Except.map]

theorem failure_ne_badPath (bindings : Bindings) (flaw : PathFlaw) :
    HotField.all.findSome? (HotField.failure? bindings) ≠ some (.badPath flaw) := by
  intro h
  obtain ⟨-, field, -, -, hf, -⟩ := List.findSome?_eq_some_iff.mp h
  obtain ⟨raw, -, hr⟩ := HotField.failure?_eq_some_iff.mp hf
  exact HotField.read_ne_badPath field raw flaw hr

theorem reload_in_order {read : FileReader} {path : Text}
    (hpath : ∀ flaw, read path ≠ .error (.badPath flaw))
    (h : ∀ count, ¬ BreaksReload read path count) (c : NodeConfig) :
    (∃ hot, (reload read (some path) c).2.result = .ok hot) ∨
      ∃ e, (reload read (some path) c).2.result = .error (.refused e) := by
  cases hp : readProperties read path with
  | error e =>
    rw [reload_of_unread hp]
    refine .inr ?_
    cases e with
    | refused flaw => exact ⟨_, rfl⟩
    | unopened e =>
      cases e with
      | access e => exact ⟨_, rfl⟩
      | badPath flaw => exact absurd hp (readProperties_ne_badPath hpath flaw)
  | ok bindings =>
    rw [reload_of_read hp]
    have ha := applyHot_cases bindings c
    cases hf : HotField.all.findSome? (HotField.failure? bindings) with
    | none =>
      simp only [hf] at ha
      obtain ⟨hot, hok, -⟩ := ha
      refine .inl ⟨some hot, ?_⟩
      simp only [Outcome.map, Outcome.after, hok, Except.map]
    | some e =>
      simp only [hf] at ha
      cases e with
      | refused e =>
        refine .inr ⟨e, ?_⟩
        simp only [Outcome.map, Outcome.after, ha.1, Except.map]
      | tooManyDigits count =>
        exact absurd ⟨bindings, hp, Bindings.breakReload_iff.mpr hf⟩ (h count)
      | badPath flaw => exact absurd hf (failure_ne_badPath bindings flaw)

/-! ### Starting -/

theorem result_announce (directory : Address.Directory) (c : NodeConfig) :
    ∃ status, (announce directory c).result = .ok status := by
  unfold announce
  dsimp only
  split
  · exact ⟨.refused, rfl⟩
  · exact ⟨.started, rfl⟩

theorem start_of_load (read : FileReader) {location : Option Path} {env : Environment}
    (hl : Location.locate none none env = location) (directory : Address.Directory)
    (arguments : List Text) :
    match (load read location).result with
    | .error (.refused _) => (start read directory env arguments).result = .ok .refused
    | .error e => (start read directory env arguments).result = .error e
    | .ok _ => ∃ status, (start read directory env arguments).result = .ok status := by
  simp only [start, findLocation, hl, Outcome.after]
  cases hr : (load read location).result with
  | error e => cases e <;> rfl
  | ok c => exact result_announce directory _

/-- What a file makes of loading, reloading and starting: they end in order unless the first
property that is refused is an integer of too many digits, and break off if it is. -/
structure EndsInOrder (read : FileReader) (path : Path) : Prop where
  loads : (∀ count, ¬ Breaks read path.text count) →
    (∃ c, (load read (some path)).result = .ok c) ∨
      ∃ e, (load read (some path)).result = .error (.refused e)
  reloads : (∀ count, ¬ BreaksReload read path.text count) → ∀ c,
    (∃ hot, (reload read (some path.text) c).2.result = .ok hot) ∨
      ∃ e, (reload read (some path.text) c).2.result = .error (.refused e)
  starts : (∀ count, ¬ Breaks read path.text count) →
    ∀ directory env arguments, Location.locate none none env = some path →
      ∃ status, (start read directory env arguments).result = .ok status ∧
        (status.code = 0 ∨ status.code = 1)
  breaks : ∀ count, Breaks read path.text count →
    (load read (some path)).result = .error (.tooManyDigits count) ∧
      ∀ directory env arguments, Location.locate none none env = some path →
        (start read directory env arguments).result = .error (.tooManyDigits count)
  breaksReload : ∀ count, BreaksReload read path.text count → ∀ c,
    (reload read (some path.text) c).2.result = .error (.tooManyDigits count)

theorem start_of_breaks {read : FileReader} {path : Path} {env : Environment} {count : Nat}
    (h : Breaks read path.text count) (hl : Location.locate none none env = some path)
    (directory : Address.Directory) (arguments : List Text) :
    (start read directory env arguments).result = .error (.tooManyDigits count) := by
  have hs := start_of_load read hl directory arguments
  simpa only [load_of_breaks h] using hs

theorem ends_in_order {read : FileReader} {path : Path}
    (hpath : ∀ flaw, read path.text ≠ .error (.badPath flaw)) : EndsInOrder read path where
  loads := load_in_order hpath
  reloads := reload_in_order hpath
  starts := by
    intro h directory env arguments hl
    have hs := start_of_load read hl directory arguments
    rcases load_in_order hpath h with ⟨c, hc⟩ | ⟨e, he⟩
    · simp only [hc] at hs
      obtain ⟨status, hs⟩ := hs
      exact ⟨status, hs, ExitStatus.code_eq status⟩
    · simp only [he] at hs
      exact ⟨.refused, hs, ExitStatus.code_eq .refused⟩
  breaks _ h :=
    ⟨load_of_breaks h, fun directory _ arguments hl => start_of_breaks h hl directory arguments⟩
  breaksReload _ h := reload_of_breaks h

theorem ends_in_order_undecodable :
    let read : FileReader := fun _ => .ok [0x4C, 0xFF]
    (∀ flaw, read (Path.mk [] ["conf"]).text ≠ .error (.badPath flaw)) ∧
      EndsInOrder read ⟨[], ["conf"]⟩ := by
  intro read
  have hpath : ∀ flaw, read (Path.mk [] ["conf"]).text ≠ .error (.badPath flaw) := by simp [read]
  exact ⟨hpath, ends_in_order hpath⟩

/-! ### A row of digits that breaks everything off -/

theorem breaks_of_digits {read : FileReader} {path digits : Text} {field : HotField}
    (hd : Text.isDigits digits) (hl : Decimal.maxDigits < digits.length)
    (hr : read.Holds path (field.key ++ .char '=' :: digits)) :
    Breaks read path digits.length ∧ BreaksReload read path digits.length := by
  have hp : readProperties read path = .ok [((Property.hot field).key, digits)] :=
    readProperties_of_line (Document.plainValue_of_isDigits hd) hr
  have ho := oversized_of_isDigits hd hl
  exact ⟨⟨_, hp, Bindings.breakStart_singleton rfl ho⟩, ⟨_, hp, Bindings.breakReload_singleton ho⟩⟩

/-- A size of removed logs with one digit too many is neither taken nor refused. -/
theorem row_of_ones_breaks_off :
    let digits := List.replicate 4301 '1'
    let read : FileReader := fun _ =>
      .ok (Utf8.ofChars ("MAX_REMOVED_LOG_SIZE=".toList ++ digits))
    let path : Path := ⟨[], ["conf", "cluster.properties"]⟩
    let env : Environment :=
      fun name => if name = ("CLUSTER_CONF" : Text) then some "conf" else none
    (load read (some path)).result = .error (.tooManyDigits 4301) ∧
      (reload read (some path.text) {}).2.result = .error (.tooManyDigits 4301) ∧
      (start read (.ofTable []) env []).result = .error (.tooManyDigits 4301) := by
  intro digits read path env
  have hones : Text.ofChars digits = List.replicate 4301 (.char '1') := List.map_replicate
  have hlen : (Text.ofChars digits).length = 4301 := by rw [hones, List.length_replicate]
  have hd : Text.isDigits (Text.ofChars digits) := by
    rw [hones]
    exact Text.isDigits_replicate (by decide) 4300
  have hkey : ("MAX_REMOVED_LOG_SIZE=" : Text)
      = HotField.maxRemovedLogSize.key ++ [.char '='] := by decide
  have hline : Text.ofChars ("MAX_REMOVED_LOG_SIZE=".toList ++ digits)
      = HotField.maxRemovedLogSize.key ++ .char '=' :: Text.ofChars digits := by
    rw [Text.ofChars_append]
    show ("MAX_REMOVED_LOG_SIZE=" : Text) ++ Text.ofChars digits = _
    rw [hkey, List.append_assoc, List.singleton_append]
  have hr : read.Holds path.text
      (HotField.maxRemovedLogSize.key ++ .char '=' :: Text.ofChars digits) := by
    refine ⟨_, rfl, ?_⟩
    rw [← hline, Utf8.encode, Text.chars?_ofChars]
    rfl
  have hl : Location.locate none none env = some path := by decide +kernel
  obtain ⟨hb, hbr⟩ := breaks_of_digits hd (by rw [hlen]; decide) hr
  rw [hlen] at hb hbr
  exact ⟨load_of_breaks hb, reload_of_breaks hbr {}, start_of_breaks hb hl _ []⟩

end Startup

end NodeSettings
