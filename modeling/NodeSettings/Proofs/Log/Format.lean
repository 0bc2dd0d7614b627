import NodeSettings.Log.Format
import NodeSettings.Proofs.Log.Template

/-!
# Which formats are chosen

A format that shows the sample is chosen as it is, and the built-in one stands in for every other
one; what was chosen is chosen again. There is no choice for a format whose first part that does not
show the sample asks for a number beyond its bounds: for the thread or the process as a character,
for the thread as a precision, for more digits than an integer can have, or for a line too long to
be held. Which numbers these are is a matter of the machine.
-/

namespace NodeSettings.Log

namespace Template

/-! ### Values beyond bounds -/

theorem ofLetter?_eq_character_iff {letter : CodePoint} :
    Conversion.ofLetter? letter = some .character ↔ letter = 'c' := by
  constructor
  · intro h
    unfold Conversion.ofLetter? at h
    split at h <;> first | rfl | cases h
  · rintro rfl
    rfl

theorem conversion?_eq_character_iff {d : Directive} :
    d.conversion? = some .character ↔ d.letter = some (.char 'c') := by
  rw [Directive.conversion?, Option.bind_eq_some_iff]
  simp only [ofLetter?_eq_character_iff, exists_eq_right]

/-- A value that is refused for a number beyond its bounds is an integer as a character, one in too
many digits, or one that is too large to be rounded. -/
theorem checkValue_cases {precision : Extent} {conversion : Conversion} {value : Value} {e : Excess}
    (h : checkValue precision conversion value = .error (.excess e)) :
    (conversion = .character ∧ ∃ n, value = .integer n ∧ (n < 0 ∨ characterBound ≤ n)) ∨
      (∃ base, conversion = .integer base ∧ maxDigits < precision.number?.getD 0 ∧
        checkValue .absent conversion value = .ok ()) ∨
      ∃ form n, conversion = .number form ∧ value = .integer n ∧
        roundedBound ≤ rounded n.natAbs := by
  have hdigits : checkDigits precision = .error (.excess e) →
      maxDigits < precision.number?.getD 0 := by
    intro hd
    unfold checkDigits at hd
    split at hd
    · cases hd
    · omega
  unfold checkValue at h
  split at h
  · cases h
  · split at h <;> cases h
  · rename_i n
    refine .inl ⟨rfl, n, rfl, ?_⟩
    unfold checkCharacter at h
    split at h
    · rename_i hn
      exact hn
    · cases h
  · rename_i base n
    exact .inr (.inl ⟨base, rfl, hdigits h, rfl⟩)
  · exact .inr (.inl ⟨.ten, rfl, hdigits h, rfl⟩)
  · rename_i form n
    split at h
    · cases h
    · rename_i hn
      exact .inr (.inr ⟨form, n, rfl, rfl, by omega⟩)
  · cases h
  · cases h

theorem checkValue_character {precision : Extent} {n : Int} (h : (characterBound : Int) ≤ n) :
    checkValue precision .character (.integer n) = .error (.excess .character) := by
  rw [checkValue, checkCharacter, if_pos (.inr h)]

theorem checkValue_digits {precision : Extent} {base : Base} {value : Value}
    (hv : checkValue .absent (.integer base) value = .ok ())
    (hp : maxDigits < precision.number?.getD 0) :
    checkValue precision (.integer base) value = .error (.excess .digits) := by
  have hdigits : checkDigits precision = .error (.excess .digits) := if_neg (by omega)
  cases value with
  | text s => cases base <;> cases hv
  | integer n => exact hdigits
  | number n =>
    cases base with
    | ten => exact hdigits
    | eight => cases hv
    | sixteen capital => cases hv
  | other shown => cases base <;> cases hv

end Template

namespace Format

open Template

/-! ### The values of the sample -/

/-- The numbers of the machine, by the fields that show them. -/
def numberOf? (m : Machine) (key : Option Text) : Option Nat :=
  if key = some "thread" then some m.thread
  else if key = some "process" then some m.process
  else none

/-- A value that is no integer, or a small one. -/
def Small : Value → Prop
  | .integer n => 0 ≤ n ∧ n ≤ 20
  | _ => True

theorem valueFor_of_numberOf? {m : Machine} {key : Option Text} {n : Nat}
    (h : numberOf? m key = some n) (given : Text) (fresh : Bool) :
    valueFor (sampleFields m given) fresh key = .ok (.integer n) := by
  unfold numberOf? at h
  unfold sampleFields
  split at h
  · rename_i hkey
    cases h
    subst hkey
    split <;> rfl
  · split at h
    · rename_i hkey
      cases h
      subst hkey
      split <;> rfl
    · cases h

/-- The fields of the sample with the numbers of the machine, and the others. -/
theorem number_or_small_of_mem (m : Machine) :
    ∀ field ∈ sample.fieldsShowing m (.number sample.created),
      (∃ n, numberOf? m (some field.1) = some n ∧ field.2 = .integer n) ∨ Small field.2 := by
  have hlevel : Small (.integer sample.level) := ⟨by decide, by decide⟩
  have hline : Small (.integer 0) := ⟨by decide, by decide⟩
  simp only [Record.fieldsShowing, List.forall_mem_cons]
  and_intros
  all_goals
    first
    | exact .inr trivial
    | exact .inr hlevel
    | exact .inr hline
    | exact .inl ⟨_, rfl, rfl⟩
    | exact fun _ h => absurd h List.not_mem_nil

/-- Two numbers are those of the machine, and all else is small. -/
theorem number_or_small_of_valueFor {m : Machine} {given : Text} {fresh : Bool}
    {key : Option Text} {value : Value}
    (h : valueFor (sampleFields m given) fresh key = .ok value) :
    (∃ n, numberOf? m key = some n ∧ value = .integer n) ∨ Small value := by
  cases key with
  | none =>
    cases fresh with
    | true =>
      cases h
      exact .inr trivial
    | false => cases h
  | some name =>
    have hmem : (name, value) ∈ sampleFields m given := by
      simp only [valueFor] at h
      split at h
      · rename_i hl
        cases h
        obtain ⟨before, after, hfields, -⟩ := List.lookup_eq_some_iff.mp hl
        rw [hfields]
        exact List.mem_append_right before List.mem_cons_self
      · cases h
    unfold sampleFields at hmem
    split at hmem
    · rcases List.mem_append.mp hmem with hm | hm
      · exact number_or_small_of_mem m _ hm
      · rw [List.mem_singleton, Prod.mk.injEq] at hm
        rw [hm.2]
        exact .inr trivial
    · exact number_or_small_of_mem m _ hmem

/-- No integer of the sample is too large to be a width. -/
theorem natAbs_le_maxWidth {m : Machine} {key : Option Text} {n : Int}
    (h : (∃ k : Nat, numberOf? m key = some k ∧ Value.integer n = .integer k) ∨
      Small (.integer n)) : n.natAbs ≤ maxWidth := by
  rcases h with ⟨k, hk, hn⟩ | hsmall
  · cases hn
    unfold numberOf? at hk
    split at hk
    · cases hk
      exact m.thread_le
    · split at hk
      · cases hk
        exact Nat.le_trans m.process_le (by decide)
      · cases hk
  · have hbound : 0 ≤ n ∧ n ≤ 20 := hsmall
    have hwidth : 20 ≤ maxWidth := by decide
    omega

theorem roundedQuotient_le (n d : Nat) : roundedQuotient n d ≤ n / d + 1 := by
  unfold roundedQuotient
  dsimp only
  split
  · exact Nat.le_refl _
  · exact Nat.le_succ _

theorem rounded_le (n : Nat) : rounded n ≤ 2 * n + 1 := by
  unfold rounded
  dsimp only
  generalize hunit : Nat.pow 2 (n.log2 + 1 - binaryPlaces) = unit
  have hle : unit ≤ n + 1 := by
    by_cases hn : n = 0
    · rw [← hunit, hn]
      decide
    · have hpow : Nat.pow 2 (n.log2 + 1 - binaryPlaces) ≤ 2 ^ n.log2 :=
        Nat.pow_le_pow_right (by decide) (by unfold binaryPlaces; omega)
      have hlog := Nat.log2_self_le hn
      omega
  calc roundedQuotient n unit * unit ≤ (n / unit + 1) * unit :=
        Nat.mul_le_mul_right unit (roundedQuotient_le n unit)
    _ = n / unit * unit + unit := Nat.succ_mul ..
    _ ≤ n + (n + 1) := Nat.add_le_add (Nat.div_mul_le_self n unit) hle
    _ = 2 * n + 1 := by omega

theorem rounded_lt_of_le_maxWidth {n : Nat} (h : n ≤ maxWidth) : rounded n < roundedBound := by
  have hbound : 2 * maxWidth + 1 < roundedBound := by decide +kernel
  have hrounded := rounded_le n
  omega

/-! ### Demands beyond bounds -/

/-- What a part of a format asks of the sample where a number is beyond its bounds, behind `taken`
characters of a line. -/
inductive Overreaches (m : Machine) (given : Text) (fresh : Bool) (taken : Nat) : Part → Prop
  /-- A number of the machine is to be a precision. -/
  | precision {d : Directive} {n : Nat} (hk : numberOf? m d.key = some n) (hn : maxPrecision < n)
      (hw : d.width.Fits maxWidth) (hp : d.precision = .taken) :
      Overreaches m given fresh taken (.directive d)
  /-- A number of the machine is to be a character. -/
  | character {d : Directive} {n : Nat} (hk : numberOf? m d.key = some n)
      (hn : characterBound ≤ n) (hw : d.width.Fits maxWidth) (hp : d.precision.Fits maxPrecision)
      (hl : d.letter = some (.char 'c')) : Overreaches m given fresh taken (.directive d)
  /-- An integer is to have more digits than can be held. -/
  | digits {d : Directive} {value : Value} (base : Base)
      (hv : valueFor (sampleFields m given) fresh d.key = .ok value)
      (hw : d.width.Fits maxWidth) (hp : d.precision.Fits maxPrecision)
      (hc : d.conversion? = some (.integer base))
      (hi : checkValue .absent (.integer base) value = .ok ())
      (hd : maxDigits < d.precision.number?.getD 0) : Overreaches m given fresh taken (.directive d)
  /-- The line with the part is too long to be held. -/
  | room {part : Part} {runs : List Run} (hr : part.runs (sampleFields m given) fresh = .ok runs)
      (hl : m.room ≤ taken + (written runs).length) : Overreaches m given fresh taken part

theorem overreaches_of_excess {m : Machine} {given : Text} {fresh : Bool} {d : Directive}
    {value : Value} {e : Excess} (hv : valueFor (sampleFields m given) fresh d.key = .ok value)
    (h : checkDirective d value = .error (.excess e)) (taken : Nat) :
    Overreaches m given fresh taken (.directive d) := by
  have hs := number_or_small_of_valueFor hv
  rcases checkDirective_eq_excess_iff.mp h with hw | ⟨hw, hp⟩ | ⟨hw, hp, conversion, hc, he⟩
  · obtain ⟨-, -, n, rfl, hn⟩ := Extent.check_eq_excess_iff.mp hw
    exact absurd (natAbs_le_maxWidth hs) (by omega)
  · obtain ⟨htaken, -, n, rfl, hn⟩ := Extent.check_eq_excess_iff.mp hp
    rcases hs with ⟨k, hk, hvalue⟩ | hsmall
    · cases hvalue
      exact .precision hk hn hw htaken
    · have hbound : 0 ≤ n ∧ n ≤ 20 := hsmall
      have hmax : 20 ≤ maxPrecision := by decide
      omega
  · rcases checkValue_cases he with
      ⟨rfl, n, rfl, hn⟩ | ⟨base, rfl, hd, hi⟩ | ⟨form, n, rfl, rfl, hn⟩
    · rcases hs with ⟨k, hk, hvalue⟩ | hsmall
      · cases hvalue
        exact .character hk (by omega) hw hp (conversion?_eq_character_iff.mp hc)
      · have hbound : 0 ≤ n ∧ n ≤ 20 := hsmall
        rw [characterBound] at hn
        omega
    · exact .digits base hv hw hp hc hi hd
    · have hlt := rounded_lt_of_le_maxWidth (natAbs_le_maxWidth hs)
      omega

theorem excess_of_overreaches {m : Machine} {given : Text} {fresh : Bool} {taken : Nat}
    {part : Part} (h : Overreaches m given fresh taken part) :
    ∃ e, part.fault? m.room (sampleFields m given) fresh taken = some (.excess e) := by
  cases h with
  | precision hk hn hw hp =>
    have hv := valueFor_of_numberOf? hk given fresh
    refine ⟨.precision, Part.fault?_eq_excess_iff.mpr (.inl ⟨_, _, rfl, hv, ?_⟩)⟩
    exact checkDirective_eq_excess_iff.mpr
      (.inr (.inl ⟨hw, Extent.check_eq_excess_iff.mpr ⟨hp, rfl, _, rfl, hn⟩⟩))
  | character hk hn hw hp hl =>
    have hv := valueFor_of_numberOf? hk given fresh
    have hc := conversion?_eq_character_iff.mpr hl
    refine ⟨.character, Part.fault?_eq_excess_iff.mpr (.inl ⟨_, _, rfl, hv, ?_⟩)⟩
    exact checkDirective_eq_excess_iff.mpr
      (.inr (.inr ⟨hw, hp, .character, hc, checkValue_character (by omega)⟩))
  | digits base hv hw hp hc hi hd =>
    refine ⟨.digits, Part.fault?_eq_excess_iff.mpr (.inl ⟨_, _, rfl, hv, ?_⟩)⟩
    exact checkDirective_eq_excess_iff.mpr
      (.inr (.inr ⟨hw, hp, .integer base, hc, checkValue_digits hi hd⟩))
  | room hr hl =>
    rw [length_written] at hl
    exact ⟨.room, Part.fault?_eq_excess_iff.mpr (.inr ⟨_, hr, hl, rfl⟩)⟩

/-- The first part of a format that does not show the sample overreaches. -/
def FirstOverreaches (m : Machine) (given : Text) : Prop :=
  ∃ before part after runs, parts given = before ++ part :: after ∧
    runsOf m.room (sampleFields m given) true 0 before = .ok runs ∧
    Overreaches m given (!before.any Part.isDirective) (written runs).length part

theorem exists_excess_iff (m : Machine) (given : Text) :
    (∃ e, check m.room (sampleFields m given) given = .error (.excess e))
      ↔ FirstOverreaches m given := by
  constructor
  · rintro ⟨e, he⟩
    obtain ⟨before, part, after, hparts, runs, hruns, hfault⟩ := check_eq_excess_iff.mp he
    rw [Bool.true_and, Nat.zero_add, ← length_written] at hfault
    refine ⟨before, part, after, runs, hparts, hruns, ?_⟩
    rcases Part.fault?_eq_excess_iff.mp hfault with ⟨d, value, rfl, hv, hc⟩ | ⟨shown, hr, hl, -⟩
    · exact overreaches_of_excess hv hc _
    · rw [← length_written shown] at hl
      exact .room hr hl
  · rintro ⟨before, part, after, runs, hparts, hruns, ho⟩
    obtain ⟨e, he⟩ := excess_of_overreaches ho
    refine ⟨e, check_eq_excess_iff.mpr ⟨before, part, after, hparts, runs, hruns, ?_⟩⟩
    rw [Bool.true_and, Nat.zero_add, ← length_written]
    exact he

/-! ### Choosing -/

/-- A format that names a field and asks for what is beyond bounds. -/
structure Unbounded (m : Machine) (given : Text) : Prop where
  names : namesField given
  overreaches : FirstOverreaches m given

/-- A format that names a field and with which the sample is shown. -/
structure ShowsSample (m : Machine) (given : Text) : Prop where
  names : namesField given
  shows : ∃ line, render m.room (sampleFields m given) given = .ok line

theorem ne_nil_of_namesField {given : Text} (h : namesField given) : given ≠ [] := by
  rintro rfl
  cases h

theorem exists_render_iff {room : Nat} {fields : Fields} {template : Text} :
    (∃ line, render room fields template = .ok line)
      ↔ ∃ runs, check room fields template = .ok runs := by
  unfold render
  cases check room fields template <;> simp [Except.map]

/-- What can be held where there is little room can be held where there is more. -/
theorem runsOf_of_le {room room' : Nat} (h : room ≤ room') {fields : Fields} {fresh : Bool}
    {taken : Nat} {ps : List Part} {runs : List Run}
    (hruns : runsOf room fields fresh taken ps = .ok runs) :
    runsOf room' fields fresh taken ps = .ok runs := by
  induction ps generalizing fresh taken runs with
  | nil => exact hruns
  | cons part rest ih =>
    simp only [runsOf, bind, Except.bind] at hruns ⊢
    split at hruns
    · cases hruns
    · split at hruns
      · cases hruns
      · rename_i hroom
        rw [if_neg (by omega)]
        split at hruns
        · cases hruns
        · rename_i others hothers
          rw [ih hothers]
          exact hruns

theorem showsSample_builtIn (m : Machine) : ShowsSample m builtIn where
  names := by decide
  shows := by
    have hsmall : ∃ runs, check 0x1000 (sampleFields m builtIn) builtIn = .ok runs := ⟨_, rfl⟩
    obtain ⟨runs, hruns⟩ := hsmall
    exact exists_render_iff.mpr ⟨runs, runsOf_of_le m.le_room hruns⟩

/-- A format that names a field is chosen by what the check of the sample says. -/
theorem choose_of_namesField (m : Machine) {given : Text} (h : namesField given) :
    choose m given = match check m.room (sampleFields m given) given with
      | .ok _ => .ok ⟨given, false⟩
      | .error (.excess e) => .error e
      | .error _ => .ok ⟨builtIn, true⟩ := by
  have hne := List.isEmpty_eq_false_iff.mpr (ne_nil_of_namesField h)
  cases hc : check m.room (sampleFields m given) given with
  | ok values => simp only [choose, hne, h, hc, Bool.not_true, Bool.false_eq_true, if_false]
  | error e =>
    cases e <;> simp only [choose, hne, h, hc, Bool.not_true, Bool.false_eq_true, if_false]

theorem choose_of_showsSample {m : Machine} {given : Text} (h : ShowsSample m given) :
    choose m given = .ok ⟨given, false⟩ := by
  obtain ⟨runs, hruns⟩ := exists_render_iff.mp h.shows
  rw [choose_of_namesField m h.names, hruns]

/-- A format is chosen as it is, or the built-in one stands in for it, or it overreaches. -/
theorem choose_cases (m : Machine) (given : Text) :
    (Unbounded m given ∧ ∃ e, choose m given = .error e) ∨
      ¬ Unbounded m given ∧
        (ShowsSample m given ∧ choose m given = .ok ⟨given, false⟩ ∨
          ¬ ShowsSample m given ∧ choose m given = .ok ⟨builtIn, !given.isEmpty⟩) := by
  by_cases hn : namesField given
  · have hne : given.isEmpty = false := List.isEmpty_eq_false_iff.mpr (ne_nil_of_namesField hn)
    have hexcess := exists_excess_iff m given
    rw [choose_of_namesField m hn]
    cases hc : check m.room (sampleFields m given) given with
    | ok shown =>
      rw [hc] at hexcess
      refine .inr ⟨fun h => ?_, .inl ⟨⟨hn, exists_render_iff.mpr ⟨shown, hc⟩⟩, rfl⟩⟩
      obtain ⟨e, he⟩ := hexcess.mpr h.overreaches
      cases he
    | error fault =>
      rw [hc] at hexcess
      have hshows : ¬ ShowsSample m given := by
        intro h
        obtain ⟨shown, hshown⟩ := exists_render_iff.mp h.shows
        rw [hc] at hshown
        cases hshown
      cases fault with
      | excess e => exact .inl ⟨⟨hn, hexcess.mp ⟨e, rfl⟩⟩, e, rfl⟩
      | _ =>
        refine .inr ⟨fun h => ?_, .inr ⟨hshows, by rw [hne]; rfl⟩⟩
        obtain ⟨e, he⟩ := hexcess.mpr h.overreaches
        cases he
  · refine .inr ⟨fun h => hn h.names, .inr ⟨fun h => hn h.names, ?_⟩⟩
    cases given with
    | nil => rfl
    | cons c rest => simp [choose, hn]

/-- There is a choice for every format that does not overreach: the format itself exactly if it
shows the sample, else the built-in one, and either is chosen again. -/
theorem chosen_or_unbounded (m : Machine) (given : Text) :
    match choose m given with
    | .error _ => Unbounded m given
    | .ok choice => ¬ Unbounded m given ∧
        (choice.format = given ∨ choice.format = builtIn) ∧
        (choice.format = given ↔ ShowsSample m given) ∧
        (choice.warned ↔ given ≠ [] ∧ ¬ ShowsSample m given) ∧
        choose m choice.format = .ok ⟨choice.format, false⟩ := by
  rcases choose_cases m given with ⟨hu, e, h⟩ | ⟨hno, ⟨hs, h⟩ | ⟨hs, h⟩⟩
  · rw [h]
    exact hu
  · rw [h]
    exact ⟨hno, .inl rfl, by simp [hs], by simp [hs], h⟩
  · rw [h]
    have hne : builtIn ≠ given := by
      rintro rfl
      exact hs (showsSample_builtIn m)
    exact ⟨hno, .inr rfl, by simp [hs, hne], by simp [hs],
      choose_of_showsSample (showsSample_builtIn m)⟩

/-- A field that is wider than the room of one machine is chosen on another. -/
theorem chosen_or_unbounded_by_room :
    let narrow : Machine := ⟨1, 0x7F0000000000, 0x1000, by decide, by decide, by decide⟩
    let wide : Machine := ⟨1, 0x7F0000000000, 0x100000, by decide, by decide, by decide⟩
    let given : Text := "%(message)9000s"
    Unbounded narrow given ∧ ¬ Unbounded wide given ∧ ShowsSample wide given := by
  intro narrow wide given
  have hn : choose narrow given = .error .room := rfl
  have hw : choose wide given = .ok ⟨given, false⟩ := rfl
  have hnarrow := chosen_or_unbounded narrow given
  have hwide := chosen_or_unbounded wide given
  rw [hn] at hnarrow
  rw [hw] at hwide
  obtain ⟨hbounded, -, hshows, -, -⟩ := hwide
  exact ⟨hnarrow, hbounded, hshows.mp rfl⟩

/-- A format escapes by the number of the thread, by that of the process and by the length of its
line. -/
theorem thread_as_character_unbounded :
    let m : Machine :=
      ⟨1200000, 0x7F0000000000, 0x800000000, by decide, by decide, by decide⟩
    choose m "%(thread)c" = .error .character ∧ choose m "%(process)c" = .error .character ∧
      choose m "%(message)34359738368s" = .error .room :=
  ⟨rfl, rfl, rfl⟩

end Format

end NodeSettings.Log
