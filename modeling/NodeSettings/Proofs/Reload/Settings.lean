import NodeSettings.Proofs.Property.Value
import NodeSettings.Reload

/-!
# What bindings make of the settings

Bindings are refused as a whole by the first setting, in the order of the settings, whose text is
no number from zero on. Bindings that are not refused give every bound setting the number in its
text, and the other settings keep theirs.
-/

namespace NodeSettings

namespace HotField

theorem read_eq_ok_iff {field : HotField} {raw : Text} {n : Int} :
    field.read raw = .ok n ↔ Decimal.parse raw = .ok n ∧ 0 ≤ n := by
  rw [← readInteger_eq_ok_iff]
  unfold read
  split
  · rename_i h
    simp [h]
  · rename_i h
    simp [h]
  · rename_i m h
    rw [h]
    split
    · rename_i hneg
      simp only [reduceCtorEq, Except.ok.injEq, false_iff, not_and]
      rintro rfl
      omega
    · rename_i hpos
      simp only [Except.ok.injEq, iff_self_and]
      rintro rfl
      omega

theorem read_eq_tooManyDigits_iff {field : HotField} {raw : Text} {count : Nat} :
    field.read raw = .error (.tooManyDigits count) ↔ Oversized raw count := by
  rw [Oversized, ← Decimal.parse_eq_tooManyDigits_iff, ← readInteger_eq_tooManyDigits_iff]
  unfold read
  split
  · rename_i h
    simp [h]
  · rename_i h
    simp [h]
  · rename_i m h
    rw [h]
    split <;> simp

theorem read_ne_badPath (field : HotField) (raw : Text) (flaw : PathFlaw) :
    field.read raw ≠ .error (.badPath flaw) := by
  intro h
  unfold read at h
  split at h
  · cases h
  · cases h
  · split at h <;> cases h

theorem mem_all (field : HotField) : field ∈ all := by cases field <;> decide

theorem nodup_all : all.Nodup := by decide

/-- How a setting refuses the text that it is bound to, if it does. -/
def failure? (bindings : Bindings) (field : HotField) : Option ReloadFailure :=
  match bindings.get? field.key with
  | none => none
  | some raw =>
    match field.read raw with
    | .ok _ => none
    | .error e => some e

theorem failure?_eq_none_iff {bindings : Bindings} {field : HotField} :
    field.failure? bindings = none ↔
      ∀ raw, bindings.get? field.key = some raw → ∃ n, field.read raw = .ok n := by
  unfold failure?
  cases hb : bindings.get? field.key with
  | none => simp
  | some raw =>
    cases hr : field.read raw <;> simp [hr]

theorem failure?_eq_some_iff {bindings : Bindings} {field : HotField} {e : ReloadFailure} :
    field.failure? bindings = some e ↔
      ∃ raw, bindings.get? field.key = some raw ∧ field.read raw = .error e := by
  unfold failure?
  cases hb : bindings.get? field.key with
  | none => simp
  | some raw =>
    cases hr : field.read raw <;> simp [hr]

end HotField

/-! ### Changes -/

theorem HotSettings.update_cons (hot : HotSettings) (field : HotField) (n : Int)
    (changes : List (HotField × Int)) :
    hot.update ((field, n) :: changes) = (hot.set field n).update changes := rfl

theorem hotChanges_cons_of_none {bindings : Bindings} {field : HotField} {rest : List HotField}
    (h : bindings.get? field.key = none) :
    hotChanges bindings (field :: rest) = hotChanges bindings rest := by
  simp only [hotChanges, h]

theorem hotChanges_eq_error_iff {bindings : Bindings} {fields : List HotField}
    {e : ReloadFailure} :
    hotChanges bindings fields = .error e
      ↔ fields.findSome? (HotField.failure? bindings) = some e := by
  induction fields with
  | nil => simp [hotChanges]
  | cons field rest ih =>
    rw [List.findSome?_cons, HotField.failure?]
    cases hb : bindings.get? field.key with
    | none =>
      rw [hotChanges_cons_of_none hb]
      exact ih
    | some raw =>
      cases hr : field.read raw with
      | error failure => simp [hotChanges, hb, hr]
      | ok n =>
        simp only [hotChanges, hb, hr]
        rw [← ih]
        cases hotChanges bindings rest <;> simp

/-- A setting has the number in the text that it is bound to, and its earlier one if it is bound
to none. -/
def HotField.Takes (bindings : Bindings) (hot hot' : HotSettings) (field : HotField) : Prop :=
  match bindings.get? field.key with
  | some raw => field.read raw = .ok (hot'.get field)
  | none => hot'.get field = hot.get field

theorem takes_update {bindings : Bindings} {fields : List HotField}
    {changes : List (HotField × Int)} (hn : fields.Nodup)
    (h : hotChanges bindings fields = .ok changes) (hot : HotSettings) (field : HotField) :
    if field ∈ fields then HotField.Takes bindings hot (hot.update changes) field
    else (hot.update changes).get field = hot.get field := by
  induction fields generalizing changes hot with
  | nil =>
    cases h
    rfl
  | cons first rest ih =>
    have hnot : first ∉ rest := (List.nodup_cons.mp hn).1
    have hrest : rest.Nodup := (List.nodup_cons.mp hn).2
    cases hb : bindings.get? first.key with
    | none =>
      rw [hotChanges_cons_of_none hb] at h
      have hi := ih hrest h hot
      by_cases hf : field = first
      · subst hf
        rw [if_neg hnot] at hi
        rw [if_pos List.mem_cons_self]
        simpa only [HotField.Takes, hb] using hi
      · simpa only [List.mem_cons, hf, false_or] using hi
    | some raw =>
      simp only [hotChanges, hb] at h
      split at h
      · cases h
      · rename_i n hr
        split at h
        · cases h
        · rename_i more hmore
          cases h
          have hi := ih hrest hmore (hot.set first n)
          rw [HotSettings.update_cons]
          by_cases hf : field = first
          · subst hf
            rw [if_neg hnot, HotSettings.get_set_self] at hi
            rw [if_pos List.mem_cons_self]
            simp only [HotField.Takes, hb, hi]
            exact hr
          · have hkeep := HotSettings.get_set_of_ne hot hf n
            simp only [HotField.Takes, hkeep] at hi
            simpa only [List.mem_cons, hf, false_or, HotField.Takes] using hi

/-! ### Applying -/

/-- The first setting that refuses its text leaves the configuration as it was; if none does, the
bound settings are taken over and no other field changes. -/
theorem applyHot_cases (bindings : Bindings) (c : NodeConfig) :
    match HotField.all.findSome? (HotField.failure? bindings) with
    | some e => (applyHot bindings c).2.result = .error e ∧ (applyHot bindings c).1 = c
    | none => ∃ hot, (applyHot bindings c).2.result = .ok hot ∧
        (applyHot bindings c).1 = { c with hot } ∧
        ∀ field, HotField.Takes bindings c.hot hot field := by
  cases hf : HotField.all.findSome? (HotField.failure? bindings) with
  | some e =>
    have he := hotChanges_eq_error_iff.mpr hf
    simp only [applyHot, he, and_self]
  | none =>
    cases hc : hotChanges bindings HotField.all with
    | error e =>
      rw [hotChanges_eq_error_iff.mp hc] at hf
      cases hf
    | ok changes =>
      refine ⟨c.hot.update changes, by simp only [applyHot, hc], by simp only [applyHot, hc],
        fun field => ?_⟩
      have ht := takes_update HotField.nodup_all hc c.hot field
      rwa [if_pos (HotField.mem_all field)] at ht

/-- A reload whose file is not read leaves the configuration as it was. -/
theorem reload_of_unread {read : FileReader} {path : Text} {e : ReadFailure}
    (h : readProperties read path = .error e) (c : NodeConfig) :
    reload read (some path) c = (c, ⟨.error (.ofRead path e), [.reloading path], []⟩) := by
  simp only [reload, reloadFile, h]
  rfl

/-- A reload takes the bindings of its file. -/
theorem reload_of_read {read : FileReader} {path : Text} {bindings : Bindings}
    (h : readProperties read path = .ok bindings) (c : NodeConfig) :
    reload read (some path) c
      = ((applyHot bindings c).1, ((applyHot bindings c).2.after [.reloading path]).map some) := by
  simp only [reload, reloadFile, h]

end NodeSettings
