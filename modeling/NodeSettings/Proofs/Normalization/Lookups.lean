import NodeSettings.Proofs.Address.Literal
import NodeSettings.Session
import Mathlib.Data.List.Forall2

/-!
# What normalizing asks for

Every host and every seed entry of a configuration has a need that is known before anything is
looked up: none, one lookup, or a refusal. Normalizing goes through the needs in order and stops at
the first that fails. The hosts asked for are those of the needs that were tried, the failure is
that of the last of them, and without a failure every host is replaced and nothing else is.
-/

namespace NodeSettings.Normalization

open Address

/-! ### Needs -/

/-- What a host or an entry needs to have a literal address. -/
inductive Need where
  | nothing
  | lookup (host : Text)
  | refusal (entry : Text)

namespace Need

def ofHost (host : Text) : Need := if isLiteral host then .nothing else .lookup host

def ofEntry (entry : Text) : Need :=
  match Seed.parse? entry with
  | none => .refusal entry
  | some seed => ofHost seed.host

def host? : Need → Option Text
  | .lookup host => some host
  | _ => none

/-- How a need fails, if it does: an empty answer is as bad as none. -/
def failure? (directory : Directory) : Need → Option Failure
  | .nothing => none
  | .refusal entry => some (.malformedSeed ⟨entry⟩)
  | .lookup host =>
    match directory host with
    | .failure reason => some (.unresolved ⟨host, reason⟩)
    | .addresses [] => some (.unresolved ⟨host, "no address returned"⟩)
    | .addresses (_ :: _) => none

def isMet (directory : Directory) (need : Need) : Bool := (need.failure? directory).isNone

end Need

/-- The needs of a configuration: that of its address, then those of its seed entries. -/
def needs (c : NodeConfig) : List Need := .ofHost c.localIp :: c.seeds.map .ofEntry

/-- The needs up to the first that fails, that one included. -/
def tried (directory : Directory) (ns : List Need) : List Need :=
  ns.takeWhile (·.isMet directory) ++ (ns.dropWhile (·.isMet directory)).take 1

def firstFailure? (directory : Directory) (ns : List Need) : Option Failure :=
  ns.findSome? (·.failure? directory)

theorem tried_cons (directory : Directory) (n : Need) (ns : List Need) :
    tried directory (n :: ns)
      = n :: if (n.failure? directory).isSome then [] else tried directory ns := by
  cases hf : n.failure? directory with
  | none => simp [tried, Need.isMet, hf]
  | some e => simp [tried, Need.isMet, hf]

theorem tried_append (directory : Directory) (ns ms : List Need) :
    tried directory (ns ++ ms)
      = tried directory ns
        ++ if (firstFailure? directory ns).isSome then [] else tried directory ms := by
  induction ns with
  | nil => rfl
  | cons n ns ih =>
    rw [List.cons_append, tried_cons, tried_cons, ih]
    cases hf : n.failure? directory with
    | none => simp [firstFailure?, hf]
    | some e => simp [firstFailure?, hf]

/-! ### Computations that follow their needs -/

/-- A computation that tries the needs in order, fails as the first of them fails, and otherwise
yields a value with a property. -/
structure Follows {α : Type} (directory : Directory) (ns : List Need) (asking : Asking Failure α)
    (P : α → Prop) : Prop where
  hosts : asking.hosts = (tried directory ns).filterMap Need.host?
  result : match firstFailure? directory ns with
    | some e => asking.result = .error e
    | none => ∃ a, asking.result = .ok a ∧ P a

namespace Follows

variable {α β : Type} {directory : Directory} {ns ms : List Need}

theorem pure (directory : Directory) (a : α) :
    Follows directory [] (.ofExcept (.ok a)) (· = a) :=
  ⟨rfl, a, rfl, rfl⟩

theorem weaken {asking : Asking Failure α} {P Q : α → Prop} (h : Follows directory ns asking P)
    (hpq : ∀ a, P a → Q a) : Follows directory ns asking Q := by
  refine ⟨h.hosts, ?_⟩
  have hr := h.result
  cases hf : firstFailure? directory ns with
  | some e => simpa only [hf] using hr
  | none =>
    simp only [hf] at hr ⊢
    obtain ⟨a, ha, hp⟩ := hr
    exact ⟨a, ha, hpq a hp⟩

theorem andThen {first : Asking Failure α} {next : α → Asking Failure β} {P : α → Prop}
    {Q : α → β → Prop} (hf : Follows directory ns first P)
    (hn : ∀ a, P a → Follows directory ms (next a) (Q a)) :
    Follows directory (ns ++ ms) (first.andThen next) fun b => ∃ a, P a ∧ Q a b := by
  have hr := hf.result
  have happ : firstFailure? directory (ns ++ ms)
      = (firstFailure? directory ns).or (firstFailure? directory ms) := List.findSome?_append
  cases hfail : firstFailure? directory ns with
  | some e =>
    simp only [hfail] at hr
    have ha : first.andThen next = ⟨.error e, first.hosts⟩ := by simp only [Asking.andThen, hr]
    refine ⟨?_, ?_⟩
    · rw [ha, tried_append, hfail]
      simpa using hf.hosts
    · rw [happ, hfail, ha]
      rfl
  | none =>
    simp only [hfail] at hr
    obtain ⟨a, hra, hp⟩ := hr
    have ha : first.andThen next = ⟨(next a).result, first.hosts ++ (next a).hosts⟩ := by
      simp only [Asking.andThen, hra]
    have hnext := hn a hp
    refine ⟨?_, ?_⟩
    · rw [ha, tried_append, hfail]
      simp [hf.hosts, hnext.hosts]
    · have hrest := hnext.result
      rw [happ, hfail, ha, Option.none_or]
      cases hm : firstFailure? directory ms with
      | some e => simpa only [hm] using hrest
      | none =>
        simp only [hm] at hrest ⊢
        obtain ⟨b, hb, hq⟩ := hrest
        exact ⟨b, hb, a, hp, hq⟩

theorem of_need {n : Need} {asking : Asking Failure α} {P : α → Prop}
    (hh : asking.hosts = n.host?.toList)
    (hr : match n.failure? directory with
      | some e => asking.result = .error e
      | none => ∃ a, asking.result = .ok a ∧ P a) : Follows directory [n] asking P := by
  refine ⟨?_, ?_⟩
  · have ht : tried directory [n] = [n] := by
      rw [tried_cons]
      cases (n.failure? directory).isSome <;> rfl
    rw [hh, ht]
    cases n <;> rfl
  · have hf : firstFailure? directory [n] = n.failure? directory := by
      rw [firstFailure?, List.findSome?_singleton]
    rw [hf]
    exact hr

theorem of_ok {asking : Asking Failure α} {P : α → Prop} (h : Follows directory ns asking P)
    {a : α} (ha : asking.result = .ok a) : firstFailure? directory ns = none ∧ P a := by
  have hr := h.result
  cases hf : firstFailure? directory ns with
  | some e =>
    simp only [hf, ha] at hr
    cases hr
  | none =>
    simp only [hf, ha] at hr
    obtain ⟨b, hb, hp⟩ := hr
    cases hb
    exact ⟨rfl, hp⟩

end Follows

/-! ### What stands for a host and for an entry -/

/-- The address that stands for a host: a literal host for itself, another for the first of its
addresses in the four-part family, or the first of all where that family is absent. -/
def StandsFor (directory : Directory) (host address : Text) : Prop :=
  if isLiteral host then address = host
  else ∃ list, directory host = .addresses list ∧
    (list.find? isFourPartFamily = some address ∨
      (∀ a ∈ list, isFourPartFamily a = false) ∧ list.head? = some address)

/-- An entry with a literal host is kept as it is; another gets the address that stands for its
host, in brackets if that holds a colon, and keeps the text of its ports. -/
def Rewritten (directory : Directory) (entry entry' : Text) : Prop :=
  ∃ seed, Seed.parse? entry = some seed ∧
    if isLiteral seed.host then entry' = entry
    else ∃ address, StandsFor directory seed.host address ∧
      entry' = (if .char ':' ∈ address then .char '[' :: address ++ [.char ']'] else address)
        ++ .char ':' :: seed.metaPort ++ .char ':' :: seed.dataPort

theorem preferred?_cases {list : List Text} {a : Text} (h : preferred? list = some a) :
    list.find? isFourPartFamily = some a ∨
      (∀ b ∈ list, isFourPartFamily b = false) ∧ list.head? = some a := by
  unfold preferred? at h
  cases hf : list.find? isFourPartFamily with
  | some b =>
    rw [hf] at h
    exact .inl h
  | none =>
    rw [hf] at h
    refine .inr ⟨fun b hb => ?_, h⟩
    simpa using List.find?_eq_none.mp hf b hb

theorem entry_withHost (seed : Seed) (address : Text) :
    (seed.withHost address).entry
      = (if .char ':' ∈ address then .char '[' :: address ++ [.char ']'] else address)
        ++ .char ':' :: seed.metaPort ++ .char ':' :: seed.dataPort := by
  simp only [Seed.entry, Seed.withHost, Seed.bracketedHost, List.contains_eq_mem,
    decide_eq_true_eq]

/-! ### The operations follow their needs -/

theorem follows_address (directory : Directory) (host : Text) :
    Follows directory [.ofHost host] (address directory host) (StandsFor directory host) := by
  by_cases hl : isLiteral host
  · have ha : address directory host = .ofExcept (.ok host) := if_pos hl
    have hn : Need.ofHost host = .nothing := if_pos hl
    rw [ha, hn]
    refine .of_need rfl ⟨host, rfl, ?_⟩
    rw [StandsFor, if_pos hl]
  · have hn : Need.ofHost host = .lookup host := if_neg hl
    rw [hn]
    cases hd : directory host with
    | failure reason =>
      have ha : address directory host = ⟨.error (.unresolved ⟨host, reason⟩), [host]⟩ := by
        simp only [address, hl, resolve, hd, Bool.false_eq_true, if_false]
      rw [ha]
      exact .of_need rfl (by simp only [Need.failure?, hd])
    | addresses list =>
      cases list with
      | nil =>
        have ha : address directory host
            = ⟨.error (.unresolved ⟨host, "no address returned"⟩), [host]⟩ := by
          simp only [address, hl, resolve, hd, Bool.false_eq_true, if_false]
          rfl
        rw [ha]
        exact .of_need rfl (by simp only [Need.failure?, hd])
      | cons first rest =>
        obtain ⟨a, hp⟩ := exists_preferred? first rest
        have ha : address directory host = ⟨.ok a, [host]⟩ := by
          simp only [address, hl, resolve, hd, hp, Bool.false_eq_true, if_false]
        rw [ha]
        refine .of_need rfl ?_
        simp only [Need.failure?, hd]
        refine ⟨a, rfl, ?_⟩
        rw [StandsFor, if_neg hl]
        exact ⟨first :: rest, hd, preferred?_cases hp⟩

theorem follows_entry (directory : Directory) (e : Text) :
    Follows directory [.ofEntry e] (entry directory e) (Rewritten directory e) := by
  cases hs : Seed.parse? e with
  | none =>
    have hn : Need.ofEntry e = .refusal e := by simp only [Need.ofEntry, hs]
    have he : entry directory e = .ofExcept (.error (.malformedSeed ⟨e⟩)) := by
      simp only [entry, hs]
    rw [hn, he]
    exact .of_need rfl rfl
  | some seed =>
    have hn : Need.ofEntry e = .ofHost seed.host := by simp only [Need.ofEntry, hs]
    rw [hn]
    by_cases hl : isLiteral seed.host
    · have he : entry directory e = .ofExcept (.ok e) := by simp only [entry, hs, hl, if_true]
      have hh : Need.ofHost seed.host = .nothing := if_pos hl
      rw [he, hh]
      exact .of_need rfl ⟨e, rfl, seed, hs, by rw [if_pos hl]⟩
    · have he : entry directory e = (address directory seed.host).andThen
          fun host => .ofExcept (.ok (seed.withHost host).entry) := by
        simp only [entry, hs, hl, Bool.false_eq_true, if_false]
      rw [he]
      have hseq := (follows_address directory seed.host).andThen
        fun host _ => Follows.pure directory (seed.withHost host).entry
      refine hseq.weaken ?_
      rintro e' ⟨host, hst, rfl⟩
      refine ⟨seed, hs, ?_⟩
      rw [if_neg hl]
      exact ⟨host, hst, entry_withHost seed host⟩

theorem follows_entries (directory : Directory) (es : List Text) :
    Follows directory (es.map .ofEntry) (entries directory es)
      (List.Forall₂ (Rewritten directory) es) := by
  induction es with
  | nil =>
    refine (Follows.pure directory []).weaken ?_
    rintro es' rfl
    exact .nil
  | cons e rest ih =>
    have hrest : ∀ e', Rewritten directory e e' → Follows directory (rest.map Need.ofEntry)
        ((entries directory rest).andThen fun rest' => .ofExcept (.ok (e' :: rest')))
        (List.Forall₂ (Rewritten directory) (e :: rest)) := by
      intro e' he'
      have hseq := ih.andThen fun rest' _ => Follows.pure directory (e' :: rest')
      rw [List.append_nil] at hseq
      refine hseq.weaken ?_
      rintro es' ⟨rest', hall, rfl⟩
      exact .cons he' hall
    refine ((follows_entry directory e).andThen hrest).weaken ?_
    rintro es' ⟨-, -, hall⟩
    exact hall

theorem follows_literals (directory : Directory) (c : NodeConfig) :
    Follows directory (needs c) (literals directory c) fun found =>
      StandsFor directory c.localIp found.1 ∧
        List.Forall₂ (Rewritten directory) c.seeds found.2 := by
  have hseeds : ∀ localIp, StandsFor directory c.localIp localIp →
      Follows directory (c.seeds.map Need.ofEntry)
        ((entries directory c.seeds).andThen fun seeds => .ofExcept (.ok (localIp, seeds)))
        fun found => ∃ seeds, List.Forall₂ (Rewritten directory) c.seeds seeds ∧
          found = (localIp, seeds) := by
    intro localIp _
    have hseq := (follows_entries directory c.seeds).andThen
      fun seeds _ => Follows.pure directory (localIp, seeds)
    rwa [List.append_nil] at hseq
  refine ((follows_address directory c.localIp).andThen hseeds).weaken ?_
  rintro found ⟨localIp, hip, seeds, hall, rfl⟩
  exact ⟨hip, hall⟩

/-- The first failure leaves the configuration as it was; without one the address and every entry
are replaced, and no other field is. -/
theorem run_cases (directory : Directory) (c : NodeConfig) :
    (run directory c).2.hosts = (tried directory (needs c)).filterMap Need.host? ∧
      match firstFailure? directory (needs c) with
      | some e => (run directory c).2.result = .error e ∧ (run directory c).1 = c
      | none =>
        ∃ localIp seeds, StandsFor directory c.localIp localIp ∧
          List.Forall₂ (Rewritten directory) c.seeds seeds ∧
          (run directory c).2.result = .ok () ∧
          (run directory c).1 = { c with localIp, seeds } := by
  have hf := follows_literals directory c
  cases hr : (literals directory c).result with
  | error e =>
    have hrun : run directory c = (c, ⟨.error e, (literals directory c).hosts⟩) := by
      simp only [run, hr]
    rw [hrun]
    refine ⟨hf.hosts, ?_⟩
    have hres := hf.result
    cases hff : firstFailure? directory (needs c) with
    | none =>
      simp only [hff, hr] at hres
      obtain ⟨found, hfound, -⟩ := hres
      cases hfound
    | some e' =>
      simp only [hff, hr] at hres
      cases hres
      exact ⟨rfl, rfl⟩
  | ok found =>
    obtain ⟨localIp, seeds⟩ := found
    obtain ⟨hnone, hip, hall⟩ := hf.of_ok hr
    have hrun : run directory c
        = ({ c with localIp, seeds }, ⟨.ok (), (literals directory c).hosts⟩) := by
      simp only [run, hr]
    rw [hrun, hnone]
    exact ⟨hf.hosts, localIp, seeds, hip, hall, rfl, rfl⟩

theorem normalize_eq (directory : Directory) (c : NodeConfig) :
    (normalize directory c).1 = (run directory c).1 ∧
      (normalize directory c).2.result = (run directory c).2.result ∧
      (normalize directory c).2.hosts = (run directory c).2.hosts := by
  rcases hr : run directory c with ⟨c', ⟨result, hosts⟩⟩
  cases result <;> simp only [normalize, hr, and_self]

/-! ### A step of a session -/

/-- Normalizing asks for the hosts of the needs it tries and for nothing else. The first failure
leaves the session as it was; without one the address and every entry are replaced together, and
no other field is. -/
theorem step_normalize (session : Session) (directory : Directory) :
    (session.step (.normalize directory)).2.hosts
        = (tried directory (needs session.config)).filterMap Need.host? ∧
      match firstFailure? directory (needs session.config) with
      | some e =>
        (session.step (.normalize directory)).2.result = .error (.normalize e) ∧
          (session.step (.normalize directory)).1 = session
      | none =>
        ∃ localIp seeds, StandsFor directory session.config.localIp localIp ∧
          List.Forall₂ (Rewritten directory) session.config.seeds seeds ∧
          (session.step (.normalize directory)).2.result = .ok .done ∧
          (session.step (.normalize directory)).1
            = { session with config := { session.config with localIp, seeds } } := by
  obtain ⟨hhosts, hrun⟩ := run_cases directory session.config
  obtain ⟨hconfig, hresult, hasked⟩ := normalize_eq directory session.config
  refine ⟨hasked.trans hhosts, ?_⟩
  cases hff : firstFailure? directory (needs session.config) with
  | some e =>
    simp only [hff] at hrun
    rw [Session.step, Session.settle_of_error session (hresult.trans hrun.1), hconfig, hrun.2]
    exact ⟨rfl, rfl⟩
  | none =>
    simp only [hff] at hrun
    obtain ⟨localIp, seeds, hip, hall, hok, hc⟩ := hrun
    rw [Session.step, Session.settle_of_ok session (hresult.trans hok), hconfig, hc]
    exact ⟨localIp, seeds, hip, hall, rfl, rfl⟩

end NodeSettings.Normalization
