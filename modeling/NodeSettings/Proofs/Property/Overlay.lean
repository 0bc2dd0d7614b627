import NodeSettings.Property.Overlay

/-!
# What an overlay makes of a property

A configuration with bindings laid over it has, property by property, the value read from the last
binding of the key, and the value that it had before where the key is not bound. As the properties
are all that there is of a configuration, this tells what an overlay gives, what two of them give
one after the other, and that one laid over twice is laid over once.
-/

namespace NodeSettings

theorem lookup_reverse_cons {α β : Type} [BEq α] [LawfulBEq α] [DecidableEq α] (x : α × β)
    (rest : List (α × β)) (key : α) :
    (x :: rest).reverse.lookup key
      = (rest.reverse.lookup key).or (if key = x.1 then some x.2 else none) := by
  rw [List.reverse_cons, List.lookup_append, List.lookup_cons, List.lookup_nil]
  by_cases h : key = x.1
  · simp [h]
  · have hb : (key == x.1) = false := by simpa using h
    simp [h, hb]

theorem Bindings.get?_eq_lookup (bindings : Bindings) (key : Text) :
    bindings.get? key = bindings.reverse.lookup key := by
  induction bindings with
  | nil => rfl
  | cons b rest ih =>
    rw [lookup_reverse_cons, Bindings.get?, ih]
    simp only [eq_comm]

theorem Bindings.get?_singleton_iff {key other raw raw' : Text} :
    Bindings.get? [(key, raw)] other = some raw' ↔ key = other ∧ raw = raw' := by
  simp only [Bindings.get?, Option.none_or]
  split <;> simp [*]

theorem Property.key_injective {p q : Property} (h : p.key = q.key) : p = q := by
  have hall : ∀ p ∈ Property.all, ∀ q ∈ Property.all, p.key = q.key → p = q := by decide +kernel
  exact hall p p.mem_all q q.mem_all h

/-! ### Configurations by their properties -/

theorem HotSettings.ext_get {a b : HotSettings} (h : ∀ field, a.get field = b.get field) :
    a = b := by
  have h1 : a.maxClients = b.maxClients := h .maxClients
  have h2 : a.connectionTimeout = b.connectionTimeout := h .connectionTimeout
  have h3 : a.maxRemovedLogSize = b.maxRemovedLogSize := h .maxRemovedLogSize
  cases a
  cases b
  simp only at h1 h2 h3
  rw [h1, h2, h3]

theorem NodeConfig.ext_get {c c' : NodeConfig} (h : ∀ p : Property, p.get c = p.get c') :
    c = c' := by
  have hhot : c.hot = c'.hot := HotSettings.ext_get fun field => h (.hot field)
  cases c
  cases c'
  rw [NodeConfig.mk.injEq]
  exact ⟨h .localIp, h .metaPort, h .dataPort, h .clientPort, h .seeds, h .replicas,
    h .consistency, h .queryTimeout, h .maxLogs, h .logDeletionInterval, h .batchCatchUp,
    h .autoCreateSchema, h .callCompression, hhot⟩

/-! ### Laying bindings over a configuration -/

namespace Overlay

/-- A property of the second configuration has the value read from its binding, and that of the
first where it is not bound. -/
def Takes (bindings : Bindings) (c c' : NodeConfig) (p : Property) : Prop :=
  match bindings.get? p.key with
  | some raw => p.read raw = .ok (p.get c')
  | none => p.get c' = p.get c

theorem nodup_all : Property.all.Nodup := by decide

theorem assignment?_eq_ok {bindings : Bindings} {p : Property} {a? : Option Assignment}
    (h : assignment? bindings p = .ok a?) :
    (bindings.get? p.key = none ∧ a? = none) ∨
      ∃ raw value, bindings.get? p.key = some raw ∧ p.read raw = .ok value ∧
        a? = some ⟨p, value⟩ := by
  unfold assignment? at h
  split at h
  · rename_i hb
    cases h
    exact .inl ⟨hb, rfl⟩
  · rename_i raw hb
    split at h
    · rename_i value hr
      cases h
      exact .inr ⟨raw, value, hb, hr, rfl⟩
    · cases h

theorem assignments_cons_eq_ok {bindings : Bindings} {p : Property} {ps : List Property}
    {list : List Assignment} (h : assignments bindings (p :: ps) = .ok list) :
    ∃ a? rest, assignment? bindings p = .ok a? ∧ assignments bindings ps = .ok rest ∧
      list = a?.toList ++ rest := by
  simp only [assignments] at h
  split at h
  · cases h
  · rename_i a? ha
    split at h
    · cases h
    · rename_i rest hr
      cases h
      exact ⟨a?, rest, ha, hr, rfl⟩

theorem takes_of_assignments {bindings : Bindings} {ps : List Property} {list : List Assignment}
    (hn : ps.Nodup) (h : assignments bindings ps = .ok list) (c : NodeConfig) (q : Property) :
    if q ∈ ps then Takes bindings c (list.foldl (fun c a => a.apply c) c) q
    else q.get (list.foldl (fun c a => a.apply c) c) = q.get c := by
  induction ps generalizing list c with
  | nil =>
    cases h
    rfl
  | cons p ps ih =>
    obtain ⟨a?, rest, ha, hrest, rfl⟩ := assignments_cons_eq_ok h
    have hnot : p ∉ ps := (List.nodup_cons.mp hn).1
    have hi := ih (List.nodup_cons.mp hn).2 hrest
    rw [List.foldl_append]
    by_cases hq : q = p
    · subst hq
      have hlast := hi (a?.toList.foldl (fun c a => a.apply c) c)
      rw [if_neg hnot] at hlast
      rw [if_pos List.mem_cons_self]
      rcases assignment?_eq_ok ha with ⟨hb, rfl⟩ | ⟨raw, value, hb, hr, rfl⟩
      · simp only [Takes, hb]
        exact hlast
      · simp only [Takes, hb, hlast]
        show q.read raw = .ok (q.get (q.set value c))
        rw [Property.get_set_self]
        exact hr
    · have hkeep : q.get (a?.toList.foldl (fun c a => a.apply c) c) = q.get c := by
        rcases assignment?_eq_ok ha with ⟨-, rfl⟩ | ⟨raw, value, -, -, rfl⟩
        · rfl
        · exact Property.get_set_of_ne hq value c
      have hrest := hi (a?.toList.foldl (fun c a => a.apply c) c)
      by_cases hm : q ∈ ps
      · rw [if_pos hm] at hrest
        rw [if_pos (List.mem_cons_of_mem p hm)]
        simp only [Takes, hkeep] at hrest ⊢
        exact hrest
      · rw [if_neg hm] at hrest
        rw [if_neg (by simp [hq, hm])]
        exact hrest.trans hkeep

/-! ### What is refused -/

/-- How the text of a property is refused, if the property is bound to one that it does not take. -/
def failure? (bindings : Bindings) (p : Property) : Option Failure :=
  match assignment? bindings p with
  | .error e => some e
  | .ok _ => none

theorem failure?_eq_none_iff {bindings : Bindings} {p : Property} :
    failure? bindings p = none ↔
      ∀ raw, bindings.get? p.key = some raw → ∃ value, p.read raw = .ok value := by
  unfold failure? assignment?
  cases hb : bindings.get? p.key with
  | none => simp
  | some raw => cases hr : p.read raw <;> simp [hr]

theorem failure?_eq_some_iff {bindings : Bindings} {p : Property} {e : Failure} :
    failure? bindings p = some e ↔
      ∃ raw refusal, bindings.get? p.key = some raw ∧ p.read raw = .error refusal ∧
        e = .ofRefusal p raw refusal := by
  unfold failure? assignment?
  cases hb : bindings.get? p.key with
  | none => simp
  | some raw => cases hr : p.read raw <;> simp [hr, eq_comm]

theorem assignments_eq_error_iff {bindings : Bindings} {ps : List Property} {e : Failure} :
    assignments bindings ps = .error e ↔ ps.findSome? (failure? bindings) = some e := by
  induction ps with
  | nil => simp [assignments]
  | cons p ps ih =>
    rw [List.findSome?_cons, failure?]
    cases ha : assignment? bindings p with
    | error failure => simp [assignments, ha]
    | ok a? =>
      simp only [assignments, ha]
      rw [← ih]
      cases assignments bindings ps <;> simp

/-! ### The whole overlay -/

/-- The first property that refuses its text leaves the configuration as it was, and without one
every property takes its value. -/
theorem apply_cases (bindings : Bindings) (c : NodeConfig) :
    match Property.all.findSome? (failure? bindings) with
    | some e => apply bindings c = (c, .error e)
    | none => ∃ c', apply bindings c = (c', .ok ()) ∧ ∀ p, Takes bindings c c' p := by
  unfold apply
  cases ha : assignments bindings Property.all with
  | error e => simp only [assignments_eq_error_iff.mp ha]
  | ok list =>
    cases hf : Property.all.findSome? (failure? bindings) with
    | some e =>
      rw [assignments_eq_error_iff.mpr hf] at ha
      cases ha
    | none =>
      refine ⟨_, rfl, fun p => ?_⟩
      have ht := takes_of_assignments nodup_all ha c p
      rwa [if_pos (Property.mem_all p)] at ht

/-- An overlay that is refused leaves the configuration as it was. -/
theorem apply_eq_error_iff {bindings : Bindings} {c c' : NodeConfig} {e : Failure} :
    apply bindings c = (c', .error e)
      ↔ c' = c ∧ Property.all.findSome? (failure? bindings) = some e := by
  have h := apply_cases bindings c
  cases hf : Property.all.findSome? (failure? bindings) with
  | some e' =>
    simp only [hf] at h
    simp [h, eq_comm]
  | none =>
    simp only [hf] at h
    obtain ⟨d, h, -⟩ := h
    simp [h]

theorem takes_of_apply {bindings : Bindings} {c c' : NodeConfig}
    (h : apply bindings c = (c', .ok ())) (p : Property) : Takes bindings c c' p := by
  have hcases := apply_cases bindings c
  rw [h] at hcases
  split at hcases
  · cases hcases
  · obtain ⟨_, hc', ht⟩ := hcases
    cases hc'
    exact ht p

theorem Takes.get_eq {bindings : Bindings} {c d d' : NodeConfig} {p : Property}
    (h : Takes bindings c d p) (h' : Takes bindings c d' p) : p.get d = p.get d' := by
  unfold Takes at h h'
  split at h
  · rename_i raw hb
    simp only [hb, h, Except.ok.injEq] at h'
    exact h'
  · rename_i hb
    simp only [hb] at h'
    rw [h, h']

/-- An overlay gives the one configuration of which every property takes its value. -/
theorem apply_eq_ok_iff {bindings : Bindings} {c c' : NodeConfig} :
    apply bindings c = (c', .ok ()) ↔ ∀ p, Takes bindings c c' p := by
  constructor
  · exact takes_of_apply
  · intro h
    have hcases := apply_cases bindings c
    cases hf : Property.all.findSome? (failure? bindings) with
    | some e =>
      obtain ⟨p, -, hp⟩ := List.exists_of_findSome?_eq_some hf
      obtain ⟨raw, refusal, hb, hr, -⟩ := failure?_eq_some_iff.mp hp
      have ht := h p
      simp only [Takes, hb, hr] at ht
      cases ht
    | none =>
      simp only [hf] at hcases
      obtain ⟨d, ha, ht⟩ := hcases
      have hd : d = c' := NodeConfig.ext_get fun p => (ht p).get_eq (h p)
      rw [ha, hd]

theorem takes_singleton {p : Property} {raw : Text} {value : p.kind.Value}
    (h : p.read raw = .ok value) (c : NodeConfig) (q : Property) :
    Takes [(p.key, raw)] c (p.set value c) q := by
  have hget : Bindings.get? [(p.key, raw)] q.key = if p.key = q.key then some raw else none := rfl
  simp only [Takes, hget]
  by_cases hq : q = p
  · subst hq
    simpa only [if_true, Property.get_set_self] using h
  · rw [if_neg fun hkey => hq (Property.key_injective hkey).symm]
    exact Property.get_set_of_ne hq value c

/-- Bindings of one key set the property of that key, if it takes the text. -/
theorem apply_singleton_iff {p : Property} {raw : Text} {c c' : NodeConfig} :
    apply [(p.key, raw)] c = (c', .ok ())
      ↔ ∃ value, p.read raw = .ok value ∧ c' = p.set value c := by
  constructor
  · intro h
    have hbound : Bindings.get? [(p.key, raw)] p.key = some raw := by simp [Bindings.get?]
    have hp := takes_of_apply h p
    simp only [Takes, hbound] at hp
    exact ⟨p.get c', hp, NodeConfig.ext_get fun q =>
      (takes_of_apply h q).get_eq (takes_singleton hp c q)⟩
  · intro h
    obtain ⟨value, hr, rfl⟩ := h
    exact apply_eq_ok_iff.mpr (takes_singleton hr c)

theorem apply_singleton_of_refused {p : Property} {raw : Text} {refusal : Refusal}
    (h : p.read raw = .error refusal) (c : NodeConfig) :
    apply [(p.key, raw)] c = (c, .error (.ofRefusal p raw refusal)) := by
  rcases ha : apply [(p.key, raw)] c with ⟨c', result⟩
  cases result with
  | ok _ =>
    obtain ⟨value, hr, -⟩ := apply_singleton_iff.mp ha
    rw [h] at hr
    cases hr
  | error e =>
    obtain ⟨rfl, hfirst⟩ := apply_eq_error_iff.mp ha
    obtain ⟨q, -, hq⟩ := List.exists_of_findSome?_eq_some hfirst
    obtain ⟨raw', refusal', hb, hr, rfl⟩ := failure?_eq_some_iff.mp hq
    -- no other property is bound
    obtain ⟨hkey, rfl⟩ := Bindings.get?_singleton_iff.mp hb
    obtain rfl := Property.key_injective hkey
    rw [h] at hr
    cases hr
    rfl

/-! ### One overlay after another -/

theorem apply_congr {bindings bindings' : Bindings}
    (h : ∀ p : Property, bindings'.get? p.key = bindings.get? p.key) (c : NodeConfig) :
    apply bindings' c = apply bindings c := by
  have hlist : ∀ ps, assignments bindings' ps = assignments bindings ps := by
    intro ps
    induction ps with
    | nil => rfl
    | cons p rest ih => simp only [assignments, assignment?, h p, ih]
  simp only [apply, hlist]

theorem Takes.append {first second : Bindings} {c d e : NodeConfig} {p : Property}
    (h : Takes first c d p) (h' : Takes second d e p) : Takes (first ++ second) c e p := by
  simp only [Takes, Bindings.get?_append] at h h' ⊢
  cases hs : second.get? p.key with
  | some raw => simpa only [hs, Option.some_or] using h'
  | none =>
    simp only [hs, Option.none_or] at h' ⊢
    rw [h']
    exact h

theorem Takes.again {bindings : Bindings} {c d : NodeConfig} {p : Property}
    (h : Takes bindings c d p) : Takes bindings d d p := by
  unfold Takes at h ⊢
  cases hb : bindings.get? p.key with
  | some raw => simpa only [hb] using h
  | none => rfl

theorem apply_append {first second : Bindings} {c d e : NodeConfig}
    (h : apply first c = (d, .ok ())) (h' : apply second d = (e, .ok ())) :
    apply (first ++ second) c = (e, .ok ()) :=
  apply_eq_ok_iff.mpr fun p => (takes_of_apply h p).append (takes_of_apply h' p)

theorem apply_again {bindings : Bindings} {c d : NodeConfig}
    (h : apply bindings c = (d, .ok ())) : apply bindings d = (d, .ok ()) :=
  apply_eq_ok_iff.mpr fun p => (takes_of_apply h p).again

end Overlay

end NodeSettings
