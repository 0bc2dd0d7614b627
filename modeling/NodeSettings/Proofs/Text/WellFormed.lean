import NodeSettings.Proofs.Text.Utf8
import Mathlib.Data.List.Forall2

/-!
# Where octets cease to be text

Which octets encode a character is a table: a row for each length and range of first octets, with
the bounds of every octet. Well-formed octets are characters one after the other. The machine reads
exactly these; otherwise it stops at the end of the longest well-formed row of octets in front, and
the flaw it reports holds the longest piece there that some character begins with, or the one octet
that begins none.
-/

namespace NodeSettings.Utf8

/-! ### The table -/

/-- The least and the greatest value of an octet. -/
structure Bounds where
  low : Nat
  high : Nat
  deriving DecidableEq, Repr

def Bounds.Has (b : Bounds) (octet : UInt8) : Prop := b.low ≤ octet.toNat ∧ octet.toNat ≤ b.high

/-- The bounds of an octet that continues a character. -/
def tail : Bounds := ⟨0x80, 0xBF⟩

/-- The well-formed characters, in the rows of the character standard. -/
def rows : List (List Bounds) :=
  [[⟨0x00, 0x7F⟩],
   [⟨0xC2, 0xDF⟩, tail],
   [⟨0xE0, 0xE0⟩, ⟨0xA0, 0xBF⟩, tail],
   [⟨0xE1, 0xEC⟩, tail, tail],
   [⟨0xED, 0xED⟩, ⟨0x80, 0x9F⟩, tail],
   [⟨0xEE, 0xEF⟩, tail, tail],
   [⟨0xF0, 0xF0⟩, ⟨0x90, 0xBF⟩, tail, tail],
   [⟨0xF1, 0xF3⟩, tail, tail, tail],
   [⟨0xF4, 0xF4⟩, ⟨0x80, 0x8F⟩, tail, tail]]

abbrev Fits (row : List Bounds) (octets : List UInt8) : Prop := List.Forall₂ Bounds.Has row octets

/-- The octets of one character. -/
def Character (octets : List UInt8) : Prop := ∃ row ∈ rows, Fits row octets

/-- The octets of characters, one after the other. -/
inductive WellFormed : List UInt8 → Prop where
  | nil : WellFormed []
  | cons {c rest : List UInt8} (hc : Character c) (hrest : WellFormed rest) : WellFormed (c ++ rest)

/-- The octets with which well-formed octets begin. -/
def Begins (octets : List UInt8) : Prop := ∃ more, WellFormed (octets ++ more)

/-- The longest piece at the start that begins a character, or one octet that begins none. -/
structure MaximalSubpart (octets part : List UInt8) : Prop where
  atStart : part <+: octets
  begins : part.length = 1 ∨ part ≠ [] ∧ Begins part
  longest : ∀ other, other <+: octets → Begins other → other.length ≤ part.length

/-- The flaw stands right behind the longest well-formed octets in front. -/
structure Flaw.Locates (flaw : Flaw) (octets : List UInt8) : Prop where
  wellFormed : WellFormed (octets.take flaw.offset)
  longest : ∀ n, WellFormed (octets.take n) → n ≤ flaw.offset
  first : octets[flaw.offset]? = some flaw.first
  subpart : MaximalSubpart (octets.drop flaw.offset) flaw.octets

/-! ### Rows and their first octets -/

/-- The bounds of the octets still owed. -/
def Pending.bounds (pending : Pending) : List Bounds :=
  match pending.owed with
  | 0 => []
  | more + 1 => ⟨pending.low, pending.high⟩ :: List.replicate more tail

theorem Pending.bounds_eq_nil_iff {pending : Pending} :
    pending.bounds = [] ↔ pending.owed = 0 := by
  unfold bounds
  split <;> rename_i h <;> simp [h]

/-- The octets that a first octet asks for. -/
def Asks (o : UInt8) (row : List Bounds) : Prop := ∃ b : Bounds, b.Has o ∧ b :: row ∈ rows

theorem character_cons_iff {o : UInt8} {more : List UInt8} :
    Character (o :: more) ↔ ∃ row, Asks o row ∧ Fits row more := by
  constructor
  · rintro ⟨row, hrow, hfits⟩
    cases hfits with
    | cons ho hmore => exact ⟨_, ⟨_, ho, hrow⟩, hmore⟩
  · rintro ⟨row, ⟨b, ho, hrow⟩, hmore⟩
    exact ⟨b :: row, hrow, .cons ho hmore⟩

theorem exists_cons_of_character {c : List UInt8} (h : Character c) : ∃ o more, c = o :: more := by
  obtain ⟨row, hrow, hfits⟩ := h
  cases hfits with
  | nil => simp [rows] at hrow
  | cons _ _ => exact ⟨_, _, rfl⟩

theorem ofFirst?_of_asks {o : UInt8} {row : List Bounds} (h : Asks o row) :
    ∃ pending, Pending.ofFirst? o = some pending ∧ pending.bounds = row := by
  obtain ⟨b, ⟨hlow, hhigh⟩, hrow⟩ := h
  simp only [rows, List.mem_cons, List.not_mem_nil, or_false, List.cons.injEq] at hrow
  rcases hrow with ⟨rfl, rfl⟩ | ⟨rfl, rfl⟩ | ⟨rfl, rfl⟩ | ⟨rfl, rfl⟩ | ⟨rfl, rfl⟩ | ⟨rfl, rfl⟩
    | ⟨rfl, rfl⟩ | ⟨rfl, rfl⟩ | ⟨rfl, rfl⟩ <;> dsimp only at hlow hhigh
  · exact ⟨_, ofFirst?_one (by omega), rfl⟩
  · exact ⟨_, ofFirst?_two (by omega) (by omega), rfl⟩
  · refine ⟨_, ofFirst?_three (by omega) (by omega), ?_⟩
    rw [if_pos (by omega), if_neg (by omega)]
    rfl
  · refine ⟨_, ofFirst?_three (by omega) (by omega), ?_⟩
    rw [if_neg (by omega), if_neg (by omega)]
    rfl
  · refine ⟨_, ofFirst?_three (by omega) (by omega), ?_⟩
    rw [if_neg (by omega), if_pos (by omega)]
    rfl
  · refine ⟨_, ofFirst?_three (by omega) (by omega), ?_⟩
    rw [if_neg (by omega), if_neg (by omega)]
    rfl
  · refine ⟨_, ofFirst?_four (by omega) (by omega), ?_⟩
    rw [if_pos (by omega), if_neg (by omega)]
    rfl
  · refine ⟨_, ofFirst?_four (by omega) (by omega), ?_⟩
    rw [if_neg (by omega), if_neg (by omega)]
    rfl
  · refine ⟨_, ofFirst?_four (by omega) (by omega), ?_⟩
    rw [if_neg (by omega), if_pos (by omega)]
    rfl

theorem asks_unique {o : UInt8} {row row' : List Bounds} (h : Asks o row) (h' : Asks o row') :
    row = row' := by
  obtain ⟨pending, hfirst, rfl⟩ := ofFirst?_of_asks h
  obtain ⟨pending', hfirst', rfl⟩ := ofFirst?_of_asks h'
  rw [hfirst, Option.some.injEq] at hfirst'
  rw [hfirst']

theorem ofFirst?_of_not_asks {o : UInt8} (h : ∀ row, ¬ Asks o row) : Pending.ofFirst? o = none := by
  have hheads : ∀ row ∈ rows, ∀ b ∈ row.head?, ¬ (b.low ≤ o.toNat ∧ o.toNat ≤ b.high) := by
    intro row hrow b hb ho
    obtain ⟨more, rfl⟩ := List.head?_eq_some_iff.mp hb
    exact h more ⟨b, ho, hrow⟩
  simp only [rows, List.forall_mem_cons, List.head?_cons, Option.mem_some_iff, forall_eq'] at hheads
  simp only [Pending.ofFirst?]
  by_cases hsmall : o.toNat < 0xC2
  · rw [if_neg (by omega), if_pos hsmall]
  · rw [if_neg (by omega), if_neg hsmall, if_neg (by omega), if_neg (by omega), if_neg (by omega),
      if_neg (by omega), if_neg (by omega), if_neg (by omega), if_neg (by omega)]

/-! ### Where a character is cut off -/

/-- Octets that fit the first bounds of a row, while the octet behind them, if there is one, is not
within the next bounds. -/
inductive Cut : List Bounds → List UInt8 → List UInt8 → Prop where
  | here {b : Bounds} {row : List Bounds} {rest : List UInt8}
      (h : ∀ o, rest.head? = some o → ¬ b.Has o) : Cut (b :: row) [] rest
  | later {b : Bounds} {row : List Bounds} {o : UInt8} {more rest : List UInt8} (ho : b.Has o)
      (h : Cut row more rest) : Cut (b :: row) (o :: more) rest

theorem fits_or_cut (row : List Bounds) (octets : List UInt8) :
    (∃ more rest, octets = more ++ rest ∧ Fits row more) ∨
      ∃ more rest, octets = more ++ rest ∧ Cut row more rest := by
  induction row generalizing octets with
  | nil => exact .inl ⟨[], octets, rfl, .nil⟩
  | cons b row ih =>
    cases octets with
    | nil => exact .inr ⟨[], [], rfl, .here (by simp)⟩
    | cons o octets =>
      by_cases ho : b.Has o
      · rcases ih octets with ⟨more, rest, rfl, hfits⟩ | ⟨more, rest, rfl, hcut⟩
        · exact .inl ⟨o :: more, rest, rfl, .cons ho hfits⟩
        · exact .inr ⟨o :: more, rest, rfl, .later ho hcut⟩
      · refine .inr ⟨[], o :: octets, rfl, .here ?_⟩
        intro o' ho'
        simp only [List.head?_cons, Option.some.injEq] at ho'
        rwa [← ho']

/-- No octets in front that a row begins with are longer than those before the cut. -/
theorem Cut.length_le {row : List Bounds} {more rest other : List UInt8} (h : Cut row more rest)
    (hother : other <+: more ++ rest) {tail : List UInt8} (hfits : Fits row (other ++ tail)) :
    other.length ≤ more.length := by
  induction h generalizing other with
  | here hno =>
    cases other with
    | nil => exact Nat.le_refl 0
    | cons o other =>
      obtain ⟨behind, rfl⟩ := hother
      cases hfits with
      | cons ho _ => exact absurd ho (hno o rfl)
  | later _ _ ih =>
    cases other with
    | nil => exact Nat.zero_le _
    | cons o other =>
      rw [List.cons_append, List.cons_prefix_cons] at hother
      cases hfits with
      | cons _ hmore => exact Nat.succ_le_succ (ih hother.2 hmore)

theorem Cut.ne_nil {row : List Bounds} {more rest : List UInt8} (h : Cut row more rest) :
    row ≠ [] := by
  cases h with
  | here => exact List.cons_ne_nil _ _
  | later => exact List.cons_ne_nil _ _

theorem Cut.length_lt {row : List Bounds} {more rest : List UInt8} (h : Cut row more rest) :
    more.length < row.length := by
  induction h with
  | here => exact Nat.succ_pos _
  | later _ _ ih => exact Nat.succ_lt_succ ih

theorem Cut.not_fits {row : List Bounds} {more rest other : List UInt8} (h : Cut row more rest)
    (hother : other <+: more ++ rest) : ¬ Fits row other := by
  intro hfits
  have hle : other.length ≤ more.length := by
    rw [← List.append_nil other] at hfits
    exact h.length_le hother hfits
  have hlt := h.length_lt
  have hlength := hfits.length_eq
  omega

theorem exists_octets {row : List Bounds} (h : ∀ b ∈ row, ∃ o, b.Has o) :
    ∃ octets, Fits row octets := by
  induction row with
  | nil => exact ⟨[], .nil⟩
  | cons b row ih =>
    obtain ⟨o, ho⟩ := h b List.mem_cons_self
    obtain ⟨octets, hfits⟩ := ih fun d hd => h d (List.mem_cons_of_mem b hd)
    exact ⟨o :: octets, .cons ho hfits⟩

/-- The octets before a cut can be completed where each of the bounds has an octet. -/
theorem Cut.exists_fits {row : List Bounds} {more rest : List UInt8} (h : Cut row more rest)
    (hrow : ∀ b ∈ row, ∃ o, b.Has o) : ∃ tail, Fits row (more ++ tail) := by
  induction h with
  | here => exact exists_octets hrow
  | later ho _ ih =>
    obtain ⟨tail, hfits⟩ := ih fun d hd => hrow d (List.mem_cons_of_mem _ hd)
    exact ⟨tail, .cons ho hfits⟩

/-! ### The machine within a character -/

theorem Pending.owed_ne_zero {pending : Pending} {row : List Bounds} (h : pending.bounds = row)
    (hne : row ≠ []) : pending.owed ≠ 0 := by
  rwa [← h, ne_eq, bounds_eq_nil_iff] at hne

theorem push?_of_has {pending : Pending} {b : Bounds} {row : List Bounds} {o : UInt8}
    (h : pending.bounds = b :: row) (ho : b.Has o) :
    ∃ next, pending.push? o = some next ∧ next.bounds = row := by
  obtain ⟨bits, owed, low, high⟩ := pending
  cases owed with
  | zero => simp [Pending.bounds] at h
  | succ owed =>
    simp only [Pending.bounds, List.cons.injEq] at h
    obtain ⟨rfl, rfl⟩ := h
    refine ⟨_, push?_of_within ho.1 ho.2, ?_⟩
    cases owed with
    | zero => rfl
    | succ owed => rfl

theorem push?_of_not_has {pending : Pending} {b : Bounds} {row : List Bounds} {o : UInt8}
    (h : pending.bounds = b :: row) (ho : ¬ b.Has o) : pending.push? o = none := by
  obtain ⟨bits, owed, low, high⟩ := pending
  cases owed with
  | zero => simp [Pending.bounds] at h
  | succ owed =>
    simp only [Pending.bounds, List.cons.injEq] at h
    obtain ⟨rfl, rfl⟩ := h
    exact if_neg ho

/-- Within a character, octets that fit what is owed complete it. -/
theorem decodeFrom_of_fits {pending : Pending} {row : List Bounds} {octets : List UInt8}
    (h : Fits row octets) (hrow : pending.bounds = row) (hne : row ≠ []) (first : UInt8)
    (more : List UInt8) (offset : Nat) (rest : List UInt8) :
    ∃ c, decodeFrom (.within first more pending) offset (octets ++ rest)
      = (decodeFrom .between (offset + (more.length + octets.length + 1)) rest).map (c :: ·) := by
  induction h generalizing pending more with
  | nil => exact absurd rfl hne
  | @cons b o row octets ho hfits ih =>
    obtain ⟨next, hpush, hnext⟩ := push?_of_has hrow ho
    rw [List.cons_append, decodeFrom, hpush]
    by_cases hrow : row = []
    · subst hrow
      cases hfits
      have howed : next.owed = 0 := Pending.bounds_eq_nil_iff.mp hnext
      exact ⟨_, by simp only [howed, if_true]; rfl⟩
    · have howed := Pending.owed_ne_zero hnext hrow
      obtain ⟨c, hc⟩ := ih hnext hrow (more ++ [o])
      refine ⟨c, ?_⟩
      simp only [howed, if_false, hc, List.length_append, List.length_cons, List.length_nil]
      congr 2
      omega

/-- Within a character, octets that are cut off are a flaw at the start of that character. -/
theorem decodeFrom_of_cut {pending : Pending} {row : List Bounds} {octets rest : List UInt8}
    (h : Cut row octets rest) (hrow : pending.bounds = row) (first : UInt8) (more : List UInt8)
    (offset : Nat) :
    ∃ reason, decodeFrom (.within first more pending) offset (octets ++ rest)
      = .error ⟨offset, first, more ++ octets, reason⟩ := by
  induction h generalizing pending more with
  | @here b row rest hno =>
    rw [List.nil_append, List.append_nil]
    cases rest with
    | nil => exact ⟨.unexpectedEnd, rfl⟩
    | cons o rest =>
      have hpush := push?_of_not_has hrow (hno o rfl)
      exact ⟨.invalidContinuation, by rw [decodeFrom, hpush]⟩
  | @later b row o octets rest ho hcut ih =>
    obtain ⟨next, hpush, hnext⟩ := push?_of_has hrow ho
    have howed := Pending.owed_ne_zero hnext hcut.ne_nil
    obtain ⟨reason, hrun⟩ := ih hnext (more ++ [o])
    refine ⟨reason, ?_⟩
    rw [List.cons_append, decodeFrom, hpush]
    simp only [howed, if_false, hrun, List.append_assoc, List.cons_append, List.nil_append]

/-! ### The machine between characters -/

/-- Octets that begin with no character: after the first octet, or the last of several that a
character begins with, the next does not continue one. -/
inductive Blocked : List UInt8 → UInt8 → List UInt8 → Prop where
  | start {o : UInt8} {rest : List UInt8} (h : ∀ row, ¬ Asks o row) : Blocked (o :: rest) o []
  | within {o : UInt8} {row : List Bounds} {more rest : List UInt8} (h : Asks o row)
      (hcut : Cut row more rest) : Blocked (o :: (more ++ rest)) o more

theorem character_or_blocked (o : UInt8) (octets : List UInt8) :
    (∃ c rest, o :: octets = c ++ rest ∧ Character c) ∨ ∃ more, Blocked (o :: octets) o more := by
  by_cases h : ∃ row, Asks o row
  · obtain ⟨row, hrow⟩ := h
    rcases fits_or_cut row octets with ⟨more, rest, rfl, hfits⟩ | ⟨more, rest, rfl, hcut⟩
    · exact .inl ⟨o :: more, rest, rfl, character_cons_iff.mpr ⟨row, hrow, hfits⟩⟩
    · exact .inr ⟨more, .within hrow hcut⟩
  · exact .inr ⟨[], .start (not_exists.mp h)⟩

theorem decodeFrom_of_character {c : List UInt8} (h : Character c) (offset : Nat)
    (rest : List UInt8) :
    ∃ d, decodeFrom .between offset (c ++ rest)
      = (decodeFrom .between (offset + c.length) rest).map (d :: ·) := by
  obtain ⟨o, more, rfl⟩ := exists_cons_of_character h
  obtain ⟨row, hasks, hfits⟩ := character_cons_iff.mp h
  obtain ⟨pending, hfirst, hbounds⟩ := ofFirst?_of_asks hasks
  rw [List.cons_append, decodeFrom, hfirst]
  by_cases hrow : row = []
  · subst hrow
    cases hfits
    have howed : pending.owed = 0 := Pending.bounds_eq_nil_iff.mp hbounds
    exact ⟨_, by simp only [howed, if_true]; rfl⟩
  · have howed := Pending.owed_ne_zero hbounds hrow
    obtain ⟨d, hd⟩ := decodeFrom_of_fits hfits hbounds hrow o [] offset rest
    refine ⟨d, ?_⟩
    simp only [howed, if_false, hd, List.length_cons, List.length_nil, Nat.zero_add]

theorem decodeFrom_of_blocked {octets more : List UInt8} {first : UInt8}
    (h : Blocked octets first more) (offset : Nat) :
    ∃ reason, decodeFrom .between offset octets = .error ⟨offset, first, more, reason⟩ := by
  cases h with
  | start hno => exact ⟨.invalidStart, by rw [decodeFrom, ofFirst?_of_not_asks hno]⟩
  | @within _ row _ rest hasks hcut =>
    obtain ⟨pending, hfirst, hbounds⟩ := ofFirst?_of_asks hasks
    obtain ⟨reason, hrun⟩ := decodeFrom_of_cut hcut hbounds first [] offset
    have howed := Pending.owed_ne_zero hbounds hcut.ne_nil
    refine ⟨reason, ?_⟩
    rw [decodeFrom, hfirst]
    simp only [howed, if_false, hrun, List.nil_append]

/-- A run reads well-formed octets, or it stops behind well-formed octets where none follow. -/
theorem decodeFrom_cases (octets : List UInt8) (offset : Nat) :
    (∃ s, decodeFrom .between offset octets = .ok s ∧ WellFormed octets) ∨
      ∃ before after first more reason, octets = before ++ after ∧ WellFormed before ∧
        Blocked after first more ∧
        decodeFrom .between offset octets
          = .error ⟨offset + before.length, first, more, reason⟩ := by
  -- on the number of octets, as a character takes several of them
  induction hn : octets.length using Nat.strongRecOn generalizing octets offset with
  | ind n ih =>
    cases octets with
    | nil => exact .inl ⟨[], rfl, .nil⟩
    | cons o octets =>
      rcases character_or_blocked o octets with ⟨c, rest, heq, hc⟩ | ⟨more, hblocked⟩
      · rw [heq] at hn ⊢
        obtain ⟨d, hd⟩ := decodeFrom_of_character hc offset rest
        have hlt : rest.length < n := by
          obtain ⟨o, more, rfl⟩ := exists_cons_of_character hc
          simp only [List.length_append, List.length_cons] at hn
          omega
        rw [hd]
        rcases ih rest.length hlt rest (offset + c.length) rfl with
          ⟨s, hs, hrest⟩ | ⟨before, after, first, more, reason, rfl, hbefore, hblocked, hrun⟩
        · exact .inl ⟨d :: s, by rw [hs]; rfl, .cons hc hrest⟩
        · refine .inr ⟨c ++ before, after, first, more, reason, (List.append_assoc ..).symm,
            .cons hc hbefore, hblocked, ?_⟩
          rw [hrun, List.length_append, Nat.add_assoc]
          rfl
      · obtain ⟨reason, hrun⟩ := decodeFrom_of_blocked hblocked offset
        exact .inr ⟨[], o :: octets, o, more, reason, rfl, .nil, hblocked, hrun⟩

/-! ### Longest pieces -/

theorem exists_has_of_asks {o : UInt8} {row : List Bounds} (h : Asks o row) :
    ∀ b ∈ row, ∃ o', b.Has o' := by
  obtain ⟨first, -, hrow⟩ := h
  have hlow : ∀ row ∈ rows, ∀ b ∈ row, b.low ≤ b.high ∧ b.low < 256 := by decide
  intro b hb
  obtain ⟨hle, hlt⟩ := hlow _ hrow b (List.mem_cons_of_mem first hb)
  refine ⟨UInt8.ofNat b.low, ?_⟩
  rw [Bounds.Has, toNat_ofNat_of_lt hlt]
  exact ⟨Nat.le_refl _, hle⟩

/-- Of two characters with which the same octets begin none is longer. -/
theorem character_unique {c c' octets : List UInt8} (h : Character c) (h' : Character c')
    (hc : c <+: octets) (hc' : c' <+: octets) : c = c' := by
  obtain ⟨o, more, rfl⟩ := exists_cons_of_character h
  obtain ⟨o', more', rfl⟩ := exists_cons_of_character h'
  have hfirst : o = o' := by
    obtain ⟨rest, rfl⟩ := hc
    exact ((List.cons_prefix_cons.mp hc').1).symm
  subst hfirst
  obtain ⟨row, hasks, hfits⟩ := character_cons_iff.mp h
  obtain ⟨row', hasks', hfits'⟩ := character_cons_iff.mp h'
  have hlength : (o :: more).length = (o :: more').length := by
    rw [List.length_cons, List.length_cons, ← hfits.length_eq, ← hfits'.length_eq,
      asks_unique hasks hasks']
  exact (List.prefix_of_prefix_length_le hc hc' (Nat.le_of_eq hlength)).eq_of_length hlength

theorem exists_character_of_wellFormed {o : UInt8} {octets : List UInt8}
    (h : WellFormed (o :: octets)) :
    ∃ more rest row, octets = more ++ rest ∧ Asks o row ∧ Fits row more := by
  generalize heq : o :: octets = all at h
  cases h with
  | nil => cases heq
  | cons hc _ =>
    obtain ⟨o', more, rfl⟩ := exists_cons_of_character hc
    obtain ⟨row, hasks, hfits⟩ := character_cons_iff.mp hc
    rw [List.cons_append, List.cons.injEq] at heq
    obtain ⟨rfl, rfl⟩ := heq
    exact ⟨more, _, row, rfl, hasks, hfits⟩

theorem Blocked.exists_eq {octets more : List UInt8} {first : UInt8}
    (h : Blocked octets first more) : ∃ rest, octets = first :: (more ++ rest) := by
  cases h with
  | start => exact ⟨_, rfl⟩
  | within => exact ⟨_, rfl⟩

theorem Blocked.not_character {octets more c : List UInt8} {first : UInt8}
    (h : Blocked octets first more) (hfront : c <+: octets) : ¬ Character c := by
  intro hc
  obtain ⟨o, tail, rfl⟩ := exists_cons_of_character hc
  obtain ⟨row, hasks, hfits⟩ := character_cons_iff.mp hc
  cases h with
  | start hno =>
    obtain ⟨rfl, -⟩ := List.cons_prefix_cons.mp hfront
    exact hno row hasks
  | within hasks' hcut =>
    obtain ⟨rfl, htail⟩ := List.cons_prefix_cons.mp hfront
    rw [asks_unique hasks hasks'] at hfits
    exact hcut.not_fits htail hfits

/-- What stands in front and begins a character is no longer than the piece before the block. -/
theorem Blocked.length_le {octets more other : List UInt8} {first : UInt8}
    (h : Blocked octets first more) (hother : other <+: octets) (hbegins : Begins other) :
    other.length ≤ (first :: more).length := by
  cases other with
  | nil => exact Nat.zero_le _
  | cons o other =>
    obtain ⟨behind, hwhole⟩ := hbegins
    obtain ⟨tail, rest, row, heq, hasks, hfits⟩ := exists_character_of_wellFormed hwhole
    cases h with
    | start hno =>
      obtain ⟨rfl, -⟩ := List.cons_prefix_cons.mp hother
      exact absurd hasks (hno row)
    | within hasks' hcut =>
      obtain ⟨rfl, hmore⟩ := List.cons_prefix_cons.mp hother
      rw [asks_unique hasks hasks'] at hfits
      -- the character ends within these octets or behind them
      rcases List.append_eq_append_iff.mp heq with ⟨left, rfl, -⟩ | ⟨left, rfl, -⟩
      · exact Nat.succ_le_succ (hcut.length_le hmore hfits)
      · exact absurd hfits (hcut.not_fits ((List.prefix_append tail left).trans hmore))

theorem Blocked.maximalSubpart {octets more : List UInt8} {first : UInt8}
    (h : Blocked octets first more) : MaximalSubpart octets (first :: more) where
  atStart := by
    obtain ⟨rest, rfl⟩ := h.exists_eq
    exact ⟨rest, rfl⟩
  begins := by
    cases h with
    | start => exact .inl rfl
    | within hasks hcut =>
      obtain ⟨tail, hfits⟩ := hcut.exists_fits (exists_has_of_asks hasks)
      have hc : Character (first :: (more ++ tail)) := character_cons_iff.mpr ⟨_, hasks, hfits⟩
      refine .inr ⟨List.cons_ne_nil first more, tail, ?_⟩
      rw [← List.append_nil (first :: more ++ tail)]
      exact .cons hc .nil
  longest _ := h.length_le

theorem WellFormed.length_le {before after more other : List UInt8} {first : UInt8}
    (h : WellFormed before) (hblocked : Blocked after first more)
    (hfront : other <+: before ++ after) (hother : WellFormed other) :
    other.length ≤ before.length := by
  induction h generalizing other with
  | nil =>
    cases hother with
    | nil => exact Nat.le_refl 0
    | cons hc _ =>
      exact absurd hc (hblocked.not_character ((List.prefix_append _ _).trans hfront))
  | @cons c rest hc _ ih =>
    cases hother with
    | nil => exact Nat.zero_le _
    | @cons c' rest' hc' hrest' =>
      rw [List.append_assoc] at hfront
      have hsame : c' = c := character_unique hc' hc ((List.prefix_append c' rest').trans hfront)
        (List.prefix_append c (rest ++ after))
      subst hsame
      have hle := ih ((List.prefix_append_right_inj c').mp hfront) hrest'
      rw [List.length_append, List.length_append]
      omega

/-! ### Whole rows of octets -/

theorem locates_of_decode {octets : List UInt8} {flaw : Flaw} (h : decode octets = .error flaw) :
    flaw.Locates octets := by
  rcases decodeFrom_cases octets 0 with
    ⟨s, hs, -⟩ | ⟨before, after, first, more, reason, rfl, hbefore, hblocked, hrun⟩
  · rw [decode, hs] at h
    cases h
  · rw [decode, hrun, Nat.zero_add, Except.error.injEq] at h
    subst h
    obtain ⟨rest, hafter⟩ := hblocked.exists_eq
    exact {
      wellFormed := by
        rw [List.take_left']
        · exact hbefore
        · rfl
      longest := by
        intro n hn
        have hle := hbefore.length_le hblocked (List.take_prefix n _) hn
        rw [List.length_take, List.length_append, hafter, List.length_cons] at hle
        dsimp only
        omega
      first := by simp [hafter]
      subpart := by
        rw [List.drop_left']
        · exact hblocked.maximalSubpart
        · rfl }

theorem decode_eq_error_iff {octets : List UInt8} :
    (∃ flaw, decode octets = .error flaw) ↔ ¬ WellFormed octets := by
  constructor
  · rintro ⟨flaw, h⟩ hwhole
    have hlocates := locates_of_decode h
    have hle : octets.length ≤ flaw.offset := hlocates.longest _ (by rwa [List.take_length])
    have hfirst := hlocates.first
    rw [List.getElem?_eq_none hle] at hfirst
    cases hfirst
  · intro hno
    rcases decodeFrom_cases octets 0 with
      ⟨s, -, hwhole⟩ | ⟨before, after, first, more, reason, -, -, -, hrun⟩
    · exact absurd hwhole hno
    · exact ⟨_, hrun⟩

theorem wellFormed_of_encode {s : Text} {octets : List UInt8} (h : encode s = some octets) :
    WellFormed octets := by
  by_contra hno
  obtain ⟨flaw, hflaw⟩ := decode_eq_error_iff.mpr hno
  rw [decode_of_encode h] at hflaw
  cases hflaw

end NodeSettings.Utf8
