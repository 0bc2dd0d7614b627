import NodeSettings.Proofs.Startup.Layers
import NodeSettings.Session

/-!
# Overlays in a session

Bindings that are laid over the configuration of a session set all the properties that they bind,
or nothing. They are refused if a property refuses the text that it is bound to, and then with the
error of the first such property in the table, in whatever order the bindings stand. Keys of no
property count for nothing. Two overlays that succeed one after the other are one overlay of the
bindings of both, and an overlay that is repeated changes nothing more.
-/

namespace NodeSettings

/-! ### What is refused -/

structure Bindings.Refused (bindings : Bindings) (p : Property) (raw : Text)
    (refusal : Refusal) : Prop where
  bound : bindings.get? p.key = some raw
  read : p.read raw = .error refusal

/-- The property is the first in the table that refuses the text that it is bound to. -/
structure Bindings.FirstRefused (bindings : Bindings) (p : Property) (raw : Text)
    (refusal : Refusal) : Prop extends bindings.Refused p raw refusal where
  first : ∃ before after, Property.all = before ++ p :: after ∧
    ∀ q ∈ before, ∀ raw refusal, ¬ bindings.Refused q raw refusal

def LoadFailure.ofRefusal (p : Property) (raw : Text) : Refusal → LoadFailure
  | .rejected why => .refused (.rejected p raw why)
  | .tooManyDigits count => .tooManyDigits count

theorem Overlay.firstRefused_of_apply {bindings : Bindings} {c c' : NodeConfig} {e : Failure}
    (h : apply bindings c = (c', .error e)) :
    c' = c ∧ ∃ p raw refusal, bindings.FirstRefused p raw refusal ∧
      e = .ofRefusal p raw refusal := by
  obtain ⟨rfl, hfirst⟩ := apply_eq_error_iff.mp h
  rw [List.findSome?_eq_some_iff] at hfirst
  obtain ⟨before, p, after, hall, hp, hbefore⟩ := hfirst
  obtain ⟨raw, refusal, hb, hr, he⟩ := failure?_eq_some_iff.mp hp
  refine ⟨rfl, p, raw, refusal, ⟨⟨hb, hr⟩, before, after, hall, ?_⟩, he⟩
  intro q hq raw' refusal' hrefused
  obtain ⟨value, hvalue⟩ := failure?_eq_none_iff.mp (hbefore q hq) raw' hrefused.bound
  rw [hrefused.read] at hvalue
  cases hvalue

theorem Overlay.not_refused_of_apply {bindings : Bindings} {c c' : NodeConfig}
    (h : apply bindings c = (c', .ok ())) (p : Property) (raw : Text) (refusal : Refusal) :
    ¬ bindings.Refused p raw refusal := by
  intro hrefused
  have ht := takes_of_apply h p
  simp only [Takes, hrefused.bound, hrefused.read] at ht
  cases ht

theorem applyProperties_of_refused {bindings : Bindings} {c : NodeConfig} {p : Property}
    {raw : Text} {refusal : Refusal}
    (h : Overlay.apply bindings c = (c, .error (.ofRefusal p raw refusal))) :
    applyProperties bindings c = (c, .error (.ofRefusal p raw refusal)) := by
  simp only [applyProperties, h]
  cases refusal <;> rfl

namespace Session

/-! ### One step -/

theorem overlay_of_apply {session : Session} {bindings : Bindings} {c : NodeConfig}
    (h : Overlay.apply bindings session.config = (c, .ok ())) :
    session.step (.applyProperties bindings)
      = ({ session with config := c }, ⟨.ok .done, [], []⟩) := by
  simp only [step, applyProperties_eq_ok_iff.mpr h]
  exact settle_of_ok session rfl

/-- An overlay succeeds, or the first property that refuses its text refuses all. -/
theorem overlay_cases (session : Session) (bindings : Bindings) :
    (∃ c, Overlay.apply bindings session.config = (c, .ok ())) ∨
      ∃ p raw refusal, bindings.FirstRefused p raw refusal ∧
        session.step (.applyProperties bindings)
          = (session, ⟨.error (.load (.ofRefusal p raw refusal)), [], []⟩) := by
  rcases ha : Overlay.apply bindings session.config with ⟨c, result⟩
  cases result with
  | ok _ => exact .inl ⟨c, rfl⟩
  | error e =>
    obtain ⟨rfl, p, raw, refusal, hfirst, rfl⟩ := Overlay.firstRefused_of_apply ha
    refine .inr ⟨p, raw, refusal, hfirst, ?_⟩
    simp only [step, applyProperties_of_refused ha]
    exact settle_of_error session rfl

theorem apply_of_overlay {session : Session} {bindings : Bindings} {reply : Reply}
    (h : (session.step (.applyProperties bindings)).2.result = .ok reply) :
    ∃ c, Overlay.apply bindings session.config = (c, .ok ()) := by
  rcases session.overlay_cases bindings with hok | ⟨p, raw, refusal, -, hs⟩
  · exact hok
  · rw [hs] at h
    cases h

theorem overlay_refuses_iff {session : Session} {bindings : Bindings} :
    (∃ e, (session.step (.applyProperties bindings)).2.result = .error e)
      ↔ ∃ p raw refusal, bindings.Refused p raw refusal := by
  rcases session.overlay_cases bindings with ⟨c, ha⟩ | ⟨p, raw, refusal, hfirst, hs⟩
  · rw [overlay_of_apply ha]
    refine iff_of_false (by simp) ?_
    intro hrefused
    obtain ⟨p, raw, refusal, hp⟩ := hrefused
    exact Overlay.not_refused_of_apply ha p raw refusal hp
  · rw [hs]
    exact iff_of_true ⟨_, rfl⟩ ⟨p, raw, refusal, hfirst.toRefused⟩

theorem firstRefused_of_overlay {session : Session} {bindings : Bindings} {e : Failure}
    (h : (session.step (.applyProperties bindings)).2.result = .error e) :
    (session.step (.applyProperties bindings)).1 = session ∧
      ∃ p raw refusal, bindings.FirstRefused p raw refusal ∧
        e = .load (.ofRefusal p raw refusal) := by
  rcases session.overlay_cases bindings with ⟨c, ha⟩ | ⟨p, raw, refusal, hfirst, hs⟩
  · rw [overlay_of_apply ha] at h
    cases h
  · rw [hs] at h ⊢
    cases h
    exact ⟨rfl, p, raw, refusal, hfirst, rfl⟩

/-! ### Several steps -/

theorem overlay_congr {bindings bindings' : Bindings}
    (h : ∀ p : Property, bindings'.get? p.key = bindings.get? p.key) (session : Session) :
    session.step (.applyProperties bindings') = session.step (.applyProperties bindings) := by
  simp only [step, settle, applyProperties, Overlay.apply_congr h]

theorem overlay_append {session : Session} {first second : Bindings} {reply reply' : Reply}
    (h : (session.step (.applyProperties first)).2.result = .ok reply)
    (h' : ((session.step (.applyProperties first)).1.step (.applyProperties second)).2.result
      = .ok reply') :
    session.step (.applyProperties (first ++ second))
      = (session.step (.applyProperties first)).1.step (.applyProperties second) := by
  obtain ⟨c, hc⟩ := apply_of_overlay h
  rw [overlay_of_apply hc] at h' ⊢
  obtain ⟨d, hd⟩ := apply_of_overlay h'
  rw [overlay_of_apply hd, overlay_of_apply (Overlay.apply_append hc hd)]

theorem overlay_again (session : Session) (bindings : Bindings) :
    (session.step (.applyProperties bindings)).1.step (.applyProperties bindings)
      = session.step (.applyProperties bindings) := by
  rcases session.overlay_cases bindings with ⟨c, ha⟩ | ⟨p, raw, refusal, -, hs⟩
  · rw [overlay_of_apply ha, overlay_of_apply (Overlay.apply_again ha)]
  · rw [hs]
    exact hs

/-! ### All or nothing -/

/-- What laying bindings over the configuration of a session does, once, once more, and before
other bindings. -/
structure Overlaid (session : Session) (bindings : Bindings) : Prop where
  refuses : (∃ e, (session.step (.applyProperties bindings)).2.result = .error e)
    ↔ ∃ p raw refusal, bindings.Refused p raw refusal
  refused : ∀ e, (session.step (.applyProperties bindings)).2.result = .error e →
    (session.step (.applyProperties bindings)).1 = session ∧
      ∃ p raw refusal, bindings.FirstRefused p raw refusal ∧ e = .load (.ofRefusal p raw refusal)
  taken : ∀ reply, (session.step (.applyProperties bindings)).2.result = .ok reply →
    ∃ c, (session.step (.applyProperties bindings)).1 = { session with config := c } ∧
      ∀ p, Overlay.Takes bindings session.config c p
  /-- Neither the order of the keys nor a key of no property tells bindings apart. -/
  alike : ∀ bindings', (∀ p : Property, bindings'.get? p.key = bindings.get? p.key) →
    session.step (.applyProperties bindings') = session.step (.applyProperties bindings)
  sequence : ∀ second, (session.step (.applyProperties bindings)).2.result = .ok .done →
    ((session.step (.applyProperties bindings)).1.step (.applyProperties second)).2.result
      = .ok .done →
    session.step (.applyProperties (bindings ++ second))
      = (session.step (.applyProperties bindings)).1.step (.applyProperties second)
  again : (session.step (.applyProperties bindings)).1.step (.applyProperties bindings)
    = session.step (.applyProperties bindings)

theorem overlays_atomically (session : Session) (bindings : Bindings) :
    session.Overlaid bindings where
  refuses := overlay_refuses_iff
  refused _ h := firstRefused_of_overlay h
  taken := by
    intro reply h
    obtain ⟨c, ha⟩ := apply_of_overlay h
    refine ⟨c, ?_, Overlay.takes_of_apply ha⟩
    rw [overlay_of_apply ha]
  alike _ h := overlay_congr h session
  sequence _ h h' := overlay_append h h'
  again := session.overlay_again bindings

example : (({} : Session).step (.applyProperties
    [("SEED_NODES", "x"), ("OTHER", "1"), ("REPLICA_NUM", "3"), ("REPLICA_NUM", "three")])).2.result
      = .error (.load (.refused (.rejected .replicas "three" .notInteger))) := by rfl

end Session

end NodeSettings
