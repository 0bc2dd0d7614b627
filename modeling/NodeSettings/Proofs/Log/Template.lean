import NodeSettings.Log.Template.Rendering

/-!
# Where a template fails

A template is shown part by part, so what fails is its first part that cannot be shown, and all
parts before it are shown. A part fails by a number that is beyond its bounds in two ways: a
directive with a value meets such a number, or the line that the part adds to grows too long.
Nothing else bears on that, and a field that is missing has no value.
-/

namespace NodeSettings.Log.Template

/-! ### The first part that fails -/

section

variable {room taken : Nat} {fields : Fields} {fresh : Bool}

/-- The fault of a part behind `taken` characters, where no directive before it has shown anything,
or where one has. -/
def Part.fault? (room : Nat) (fields : Fields) (fresh : Bool) (taken : Nat) (part : Part) :
    Option Fault :=
  match part.runs fields fresh with
  | .error fault => some fault
  | .ok runs => if room ≤ taken + size runs then some (.excess .room) else none

/-- A part with a fault ends the whole with it. -/
theorem runsOf_cons_of_fault {part : Part} {fault : Fault}
    (h : part.fault? room fields fresh taken = some fault) (rest : List Part) :
    runsOf room fields fresh taken (part :: rest) = .error fault := by
  unfold Part.fault? at h
  simp only [runsOf, bind, Except.bind]
  split at h
  · rename_i hruns
    cases h
    rw [hruns]
  · rename_i runs hruns
    split at h
    · rename_i hroom
      cases h
      simp only [hruns, if_pos hroom]
    · cases h

/-- A part without a fault adds its runs to the line. -/
theorem runsOf_cons_of_none {part : Part} (h : part.fault? room fields fresh taken = none) :
    ∃ runs, ∀ rest, runsOf room fields fresh taken (part :: rest)
      = (runsOf room fields (fresh && !part.isDirective) (taken + size runs) rest).map
          (runs ++ ·) := by
  unfold Part.fault? at h
  split at h
  · cases h
  · rename_i runs hruns
    split at h
    · cases h
    · rename_i hroom
      refine ⟨runs, fun rest => ?_⟩
      simp only [runsOf, bind, Except.bind, hruns, if_neg hroom]
      rfl

/-- A list is split at its first element or at one behind it. -/
theorem exists_split_cons {α : Type} {first : α} {rest : List α} {P : List α → α → Prop} :
    (∃ before x after, first :: rest = before ++ x :: after ∧ P before x) ↔
      P [] first ∨ ∃ before x after, rest = before ++ x :: after ∧ P (first :: before) x := by
  constructor
  · rintro ⟨before, x, after, h, hp⟩
    cases before with
    | nil =>
      rw [List.nil_append, List.cons.injEq] at h
      obtain ⟨rfl, -⟩ := h
      exact .inl hp
    | cons head before =>
      rw [List.cons_append, List.cons.injEq] at h
      obtain ⟨rfl, rfl⟩ := h
      exact .inr ⟨before, x, after, rfl, hp⟩
  · rintro (hp | ⟨before, x, after, rfl, hp⟩)
    · exact ⟨[], first, rest, rfl, hp⟩
    · exact ⟨first :: before, x, after, rfl, hp⟩

theorem map_append_eq_error_iff {runs : List Run} {o : Except Fault (List Run)} {fault : Fault} :
    o.map (runs ++ ·) = .error fault ↔ o = .error fault := by
  cases o <;> simp [Except.map]

/-- The parts before a part are shown, and that part has a fault behind them. -/
def FailsAt (room : Nat) (fields : Fields) (fresh : Bool) (taken : Nat) (before : List Part)
    (part : Part) (fault : Fault) : Prop :=
  ∃ runs, runsOf room fields fresh taken before = .ok runs ∧
    part.fault? room fields (fresh && !before.any Part.isDirective) (taken + size runs) = some fault

theorem failsAt_nil {part : Part} {fault : Fault} :
    FailsAt room fields fresh taken [] part fault
      ↔ part.fault? room fields fresh taken = some fault := by
  simp [FailsAt, runsOf, size]

theorem not_failsAt_of_fault {first : Part} {fault : Fault}
    (h : first.fault? room fields fresh taken = some fault) (before : List Part) (part : Part)
    (fault' : Fault) : ¬ FailsAt room fields fresh taken (first :: before) part fault' := by
  rintro ⟨runs, hruns, -⟩
  rw [runsOf_cons_of_fault h] at hruns
  cases hruns

theorem failsAt_cons_iff {first : Part} {runs : List Run}
    (h : ∀ rest, runsOf room fields fresh taken (first :: rest)
      = (runsOf room fields (fresh && !first.isDirective) (taken + size runs) rest).map (runs ++ ·))
    {before : List Part} {part : Part} {fault : Fault} :
    FailsAt room fields fresh taken (first :: before) part fault
      ↔ FailsAt room fields (fresh && !first.isDirective) (taken + size runs) before part
        fault := by
  unfold FailsAt
  rw [h, List.any_cons, Bool.not_or, ← Bool.and_assoc]
  cases runsOf room fields (fresh && !first.isDirective) (taken + size runs) before with
  | error fault => simp [Except.map]
  | ok others => simp [Except.map, size_append, Nat.add_assoc]

/-- What fails is the first part that cannot be shown. -/
theorem runsOf_eq_error_iff {ps : List Part} {fault : Fault} :
    runsOf room fields fresh taken ps = .error fault ↔ ∃ before part after,
      ps = before ++ part :: after ∧ FailsAt room fields fresh taken before part fault := by
  induction ps generalizing fresh taken with
  | nil => simp [runsOf]
  | cons first rest ih =>
    rw [exists_split_cons, failsAt_nil]
    cases hf : first.fault? room fields fresh taken with
    | some fault' =>
      -- whatever stands behind the part, it ends the whole
      simp only [runsOf_cons_of_fault hf, not_failsAt_of_fault hf, Except.error.injEq,
        Option.some.injEq, and_false, exists_false, or_false]
    | none =>
      obtain ⟨runs, hcons⟩ := runsOf_cons_of_none hf
      simp only [hcons, map_append_eq_error_iff, failsAt_cons_iff hcons, ih, reduceCtorEq, false_or]

theorem valueFor_ne_excess (key : Option Text) (e : Excess) :
    valueFor fields fresh key ≠ .error (.excess e) := by
  intro h
  unfold valueFor at h
  split at h
  · split at h <;> cases h
  · split at h <;> cases h

/-- A part is beyond bounds in its directive, or in the line that it makes too long. -/
theorem Part.fault?_eq_excess_iff {part : Part} {e : Excess} :
    part.fault? room fields fresh taken = some (.excess e) ↔
      (∃ d value, part = .directive d ∧ valueFor fields fresh d.key = .ok value ∧
        checkDirective d value = .error (.excess e)) ∨
      ∃ runs, part.runs fields fresh = .ok runs ∧ room ≤ taken + size runs ∧ e = .room := by
  unfold Part.fault?
  cases part with
  | char c => simp [Part.runs, eq_comm]
  | unclosed => simp [Part.runs]
  | directive d =>
    simp only [Part.runs, bind, Except.bind, Part.directive.injEq]
    cases hv : valueFor fields fresh d.key with
    | error fault =>
      have hne : valueFor fields fresh d.key ≠ _ := valueFor_ne_excess d.key e
      rw [hv] at hne
      simpa [hv] using hne
    | ok value =>
      cases hc : checkDirective d value with
      | error fault => simp [hv, hc]
      | ok conversion => simp [hv, hc, eq_comm, pure, Except.pure]

end

/-- A template fails by an excess where the first part that is not shown does. -/
theorem check_eq_excess_iff {room : Nat} {fields : Fields} {template : Text} {e : Excess} :
    check room fields template = .error (.excess e) ↔ ∃ before part after,
      parts template = before ++ part :: after ∧
        FailsAt room fields true 0 before part (.excess e) :=
  runsOf_eq_error_iff

/-! ### Checking one directive -/

/-- An extent that is there or absent, and no larger than what can be held. -/
def Extent.Fits (bound : Nat) : Extent → Prop
  | .absent => True
  | .count n => n ≤ bound
  | .taken => False

namespace Extent

variable {bound : Nat} {excess : Excess} {value : Value} {extent : Extent}

theorem check_of_fits (h : extent.Fits bound) (excess : Excess) (value : Value) :
    extent.check bound excess value = .ok () := by
  cases extent with
  | absent => rfl
  | count n => exact if_pos h
  | taken => exact h.elim

theorem fits_of_check (h : extent.check bound excess value = .ok ()) : extent.Fits bound := by
  cases extent with
  | absent => trivial
  | count n =>
    by_cases hn : n ≤ bound
    · exact hn
    · rw [check, if_neg hn] at h
      cases h
  | taken => cases value <;> simp [check] at h

theorem check_eq_excess_iff {e : Excess} :
    extent.check bound excess value = .error (.excess e) ↔
      extent = .taken ∧ e = excess ∧ ∃ n, value = .integer n ∧ bound < n.natAbs := by
  cases extent with
  | absent => simp [check]
  | count n =>
    by_cases h : n ≤ bound <;> simp [check, h]
  | taken =>
    cases value with
    | integer n =>
      by_cases h : n.natAbs ≤ bound
      · simp [check, h]
      · simp [check, h, eq_comm, Nat.lt_of_not_le h]
    | _ => simp [check]

end Extent

theorem checkWidth_of_fits {extent : Extent} (h : extent.Fits maxWidth) (value : Value) :
    checkWidth value extent = .ok () := Extent.check_of_fits h .width value

theorem checkPrecision_of_fits {extent : Extent} (h : extent.Fits maxPrecision) (value : Value) :
    checkPrecision value extent = .ok () := Extent.check_of_fits h .precision value

/-- What the letter of a directive stands for, if there is one and it stands for something. -/
def Directive.conversion? (d : Directive) : Option Conversion := d.letter.bind Conversion.ofLetter?

theorem checkDirective_of_conversion {d : Directive} (hw : d.width.Fits maxWidth)
    (hp : d.precision.Fits maxPrecision) {conversion : Conversion}
    (hc : d.conversion? = some conversion) (value : Value) :
    checkDirective d value = (checkValue d.precision conversion value).map fun _ => conversion := by
  obtain ⟨letter, hl, hof⟩ := Option.bind_eq_some_iff.mp hc
  simp only [checkDirective, checkWidth_of_fits hw, checkPrecision_of_fits hp, hl, hof, bind,
    Except.bind]
  cases checkValue d.precision conversion value <;> rfl

theorem checkDirective_ne_excess_of_none {d : Directive} (hw : d.width.Fits maxWidth)
    (hp : d.precision.Fits maxPrecision) (hc : d.conversion? = none) (value : Value) (e : Excess) :
    checkDirective d value ≠ .error (.excess e) := by
  simp only [checkDirective, checkWidth_of_fits hw, checkPrecision_of_fits hp, bind, Except.bind]
  cases hl : d.letter with
  | none => simp
  | some letter =>
    rw [Directive.conversion?, hl, Option.bind_some] at hc
    simp [hc]

theorem checkDirective_of_width {d : Directive} {value : Value} {fault : Fault}
    (h : checkWidth value d.width = .error fault) : checkDirective d value = .error fault := by
  simp only [checkDirective, h, bind, Except.bind]

theorem checkDirective_of_precision {d : Directive} (hw : d.width.Fits maxWidth) {value : Value}
    {fault : Fault} (h : checkPrecision value d.precision = .error fault) :
    checkDirective d value = .error fault := by
  simp only [checkDirective, checkWidth_of_fits hw, h, bind, Except.bind]

/-- A directive fails by an excess of its width, its precision or its value, whichever is looked at
first. -/
theorem checkDirective_eq_excess_iff {d : Directive} {value : Value} {e : Excess} :
    checkDirective d value = .error (.excess e) ↔
      checkWidth value d.width = .error (.excess e) ∨
      (d.width.Fits maxWidth ∧ checkPrecision value d.precision = .error (.excess e)) ∨
      (d.width.Fits maxWidth ∧ d.precision.Fits maxPrecision ∧
        ∃ conversion, d.conversion? = some conversion ∧
          checkValue d.precision conversion value = .error (.excess e)) := by
  constructor
  · intro h
    cases hw : checkWidth value d.width with
    | error fault =>
      rw [checkDirective_of_width hw] at h
      cases h
      exact .inl rfl
    | ok _ =>
      have hfw := Extent.fits_of_check hw
      cases hp : checkPrecision value d.precision with
      | error fault =>
        rw [checkDirective_of_precision hfw hp] at h
        cases h
        exact .inr (.inl ⟨hfw, rfl⟩)
      | ok _ =>
        have hfp := Extent.fits_of_check hp
        cases hc : d.conversion? with
        | none => exact absurd h (checkDirective_ne_excess_of_none hfw hfp hc value e)
        | some conversion =>
          rw [checkDirective_of_conversion hfw hfp hc] at h
          cases hv : checkValue d.precision conversion value with
          | ok _ =>
            rw [hv] at h
            cases h
          | error fault =>
            rw [hv] at h
            cases h
            exact .inr (.inr ⟨hfw, hfp, conversion, rfl, hv⟩)
  · rintro (hw | ⟨hfw, hp⟩ | ⟨hfw, hfp, conversion, hc, hv⟩)
    · exact checkDirective_of_width hw
    · exact checkDirective_of_precision hfw hp
    · rw [checkDirective_of_conversion hfw hfp hc, hv]
      rfl

end NodeSettings.Log.Template
