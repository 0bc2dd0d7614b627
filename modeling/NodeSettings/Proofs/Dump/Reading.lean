import NodeSettings.Proofs.Dump.Parts
import NodeSettings.Proofs.Dump.Strings
import NodeSettings.Proofs.Property.Overlay
import NodeSettings.Proofs.Text.Numeral

/-!
# Reading a dump

The dump of a configuration is JSON: a reader that knows nothing of the dump finds in it the
properties with their values, as long as no integer has more digits than are read and no high half
of a pair stands right before a low half in a string. So such a configuration is known by its dump.
-/

namespace NodeSettings

namespace Json

/-- What may stand behind a value: nothing that a number goes on with. -/
def Stops (rest : Text) : Prop := rest.head?.all (!Text.isDigit ·)

/-! ### Integers -/

theorem takeWhile_of_stops {rest : Text} (h : Stops rest) : rest.takeWhile Text.isDigit = [] := by
  cases rest with
  | nil => rfl
  | cons c rest =>
    have hc : Text.isDigit c = false := by simpa [Stops] using h
    rw [List.takeWhile_cons_of_neg (by simp [hc])]

theorem leadingDigits_ofNat (n : Nat) {rest : Text} (h : Stops rest) :
    leadingDigits (Decimal.ofNat n ++ rest) = Decimal.ofNat n := by
  have hdigits : ∀ c ∈ Decimal.ofNat n, Text.isDigit c := fun _ hc =>
    Text.isDigit_of_mem (Decimal.isDigits_ofNat n) hc
  have htake : (Decimal.ofNat n ++ rest).takeWhile Text.isDigit = Decimal.ofNat n := by
    rw [List.takeWhile_append_of_pos hdigits, takeWhile_of_stops h, List.append_nil]
  obtain ⟨c, digits, hn, -⟩ := Decimal.exists_ofNat n
  unfold leadingDigits
  split
  · rename_i tail hcons
    -- a number that begins with a zero is that zero
    rw [hn, List.cons_append, List.cons.injEq] at hcons
    rw [hcons.1] at hn
    rw [hn, Decimal.eq_nil_of_ofNat hn]
  · exact htake

theorem readNatural?_ofNat {n : Nat} (hn : n < 10 ^ Decimal.maxDigits) {rest : Text}
    (h : Stops rest) : readNatural? (Decimal.ofNat n ++ rest) = some (n, rest) := by
  obtain ⟨c, digits, hcons, -⟩ := Decimal.exists_ofNat n
  have hne : (Decimal.ofNat n).isEmpty = false := by rw [hcons, List.isEmpty_cons]
  have hlen := (Decimal.length_ofNat_le_iff (k := Decimal.maxDigits) (by decide)).mpr hn
  have hfew : ¬ Decimal.maxDigits < (Decimal.ofNat n).length := by omega
  simp only [readNatural?, leadingDigits_ofNat n h, hne, hfew, decide_false, Bool.or_self,
    Bool.false_eq_true, if_false, Decimal.value_ofNat, List.drop_left]

theorem readInteger?_ofInt {n : Int} (hn : n.natAbs < 10 ^ Decimal.maxDigits) {rest : Text}
    (h : Stops rest) : readInteger? (Decimal.ofInt n ++ rest) = some (n, rest) := by
  cases n with
  | negSucc n =>
    have hread := readNatural?_ofNat (n := n + 1) hn h
    show readInteger? (.char '-' :: (Decimal.ofNat (n + 1) ++ rest)) = _
    rw [readInteger?, hread]
    rfl
  | ofNat n =>
    have hread := readNatural?_ofNat (n := n) hn h
    obtain ⟨c, digits, hcons, hc⟩ := Decimal.exists_ofNat n
    show readInteger? (Decimal.ofNat n ++ rest) = _
    unfold readInteger?
    split
    · rename_i tail hminus
      rw [hcons, List.cons_append, List.cons.injEq] at hminus
      rw [hminus.1] at hc
      cases hc
    · rw [hread]
      rfl

/-! ### What is shown to a reader -/

def isClosing (c : CodePoint) : Bool := c = ']' || c = '\x7d'

/-- The text begins, and neither with a blank character nor with a closing bracket. -/
def Opens (t : Text) : Prop := ∃ c s, t = c :: s ∧ isBlank c = false ∧ isClosing c = false

theorem Opens.append {t : Text} (h : Opens t) (s : Text) : Opens (t ++ s) := by
  obtain ⟨c, rest, rfl, hc⟩ := h
  exact ⟨c, rest ++ s, rfl, hc⟩

/-- The text `t` shows `a`: the reader finds `a` in it, whatever stands behind. -/
structure Shows {α : Type} (read : Text → Option (α × Text)) (t : Text) (a : α) : Prop where
  opens : Opens t
  reads : ∀ rest, Stops rest → read (t ++ rest) = some (a, rest)

theorem skip_append {lead : Text} (h : ∀ c ∈ lead, isBlank c) (s : Text) :
    skip (lead ++ s) = skip s := List.dropWhile_append_of_pos h

theorem skip_cons {c : CodePoint} (h : isBlank c = false) (s : Text) : skip (c :: s) = c :: s := by
  rw [skip, List.dropWhile_cons_of_neg (by simp [h])]

theorem Opens.skip {t : Text} (h : Opens t) : skip t = t := by
  obtain ⟨c, s, rfl, hc, -⟩ := h
  exact skip_cons hc s

section
variable {α : Type} {read : Text → Option (α × Text)}

/-! ### Items between brackets -/

theorem readItems?_item {t : Text} {a : α} (h : Shows read t a) {lead : Text}
    (hlead : ∀ c ∈ lead, isBlank c) {behind : Text} (hstop : Stops behind) {c : CodePoint}
    {rest : Text} (hskip : skip behind = c :: rest) (closing : CodePoint) :
    readItems? read closing (lead ++ (t ++ behind))
      = if c = ',' then (readItems? read closing rest).map (Prod.map (a :: ·) id)
        else if c = closing then some ([a], rest)
        else none := by
  have hshorter : behind.length < (lead ++ (t ++ behind)).length := by
    obtain ⟨c, s, rfl, -⟩ := h.opens
    simp only [List.length_append, List.length_cons]
    omega
  rw [readItems?, skip_append hlead, (h.opens.append behind).skip, h.reads behind hstop]
  simp only
  rw [dif_pos hshorter]
  split
  · rename_i hs
    rw [hskip] at hs
    cases hs
  · rename_i hs
    rw [hskip] at hs
    cases hs
    rfl

theorem of_isClosing {c : CodePoint} (h : isClosing c) :
    isBlank c = false ∧ c ≠ ',' ∧ Text.isDigit c = false := by
  simp only [isClosing, Bool.or_eq_true, decide_eq_true_eq] at h
  rcases h with rfl | rfl <;> decide

theorem isDigit_of_isBlank {c : CodePoint} (h : isBlank c) : Text.isDigit c = false := by
  simp only [isBlank, Bool.or_eq_true, decide_eq_true_eq] at h
  rcases h with ((rfl | rfl) | rfl) | rfl <;> decide

theorem stops_append_closing {tail : Text} (htail : ∀ c ∈ tail, isBlank c) {closing : CodePoint}
    (hclosing : isClosing closing) (rest : Text) : Stops (tail ++ closing :: rest) := by
  cases tail with
  | nil => simp [Stops, (of_isClosing hclosing).2.2]
  | cons c tail => simp [Stops, isDigit_of_isBlank (htail c List.mem_cons_self)]

/-- Items with a comma and blank characters between each two are read as what they show. -/
theorem readItems?_intercalate {items : List (Text × α)}
    (h : ∀ item ∈ items, Shows read item.1 item.2) (hne : items ≠ []) {gap tail : Text}
    (hgap : ∀ c ∈ gap, isBlank c) (htail : ∀ c ∈ tail, isBlank c) {closing : CodePoint}
    (hclosing : isClosing closing) (rest : Text) :
    readItems? read closing
        (gap ++ (List.intercalate (.char ',' :: gap) (items.map Prod.fst)
          ++ (tail ++ closing :: rest)))
      = some (items.map Prod.snd, rest) := by
  obtain ⟨hvisible, hcomma, -⟩ := of_isClosing hclosing
  have hend : skip (tail ++ closing :: rest) = closing :: rest := by
    rw [skip_append htail, skip_cons hvisible]
  induction items with
  | nil => exact absurd rfl hne
  | cons item items ih =>
    have hitem := h item List.mem_cons_self
    cases items with
    | nil =>
      rw [List.map_singleton, List.intercalate_singleton,
        readItems?_item hitem hgap (stops_append_closing htail hclosing rest) hend, if_neg hcomma,
        if_pos rfl]
      rfl
    | cons second items =>
      have hrest := ih (fun item hm => h item (List.mem_cons_of_mem _ hm)) (List.cons_ne_nil _ _)
      have hstop : ∀ s, Stops (.char ',' :: s) := fun _ => rfl
      have hskip : ∀ s, skip (.char ',' :: s) = .char ',' :: s := skip_cons (by decide)
      rw [List.map_cons, List.map_cons, List.intercalate_cons_cons, List.append_assoc,
        List.append_assoc, List.cons_append,
        readItems?_item hitem hgap (hstop _) (hskip _), if_pos rfl, ← List.map_cons, hrest]
      rfl

theorem readSequence?_intercalate {items : List (Text × α)}
    (h : ∀ item ∈ items, Shows read item.1 item.2) (hne : items ≠ []) {gap tail : Text}
    (hgap : ∀ c ∈ gap, isBlank c) (htail : ∀ c ∈ tail, isBlank c) {closing : CodePoint}
    (hclosing : isClosing closing) (rest : Text) :
    readSequence? read closing
        (gap ++ (List.intercalate (.char ',' :: gap) (items.map Prod.fst)
          ++ (tail ++ closing :: rest)))
      = some (items.map Prod.snd, rest) := by
  have hitems := readItems?_intercalate h hne hgap htail hclosing rest
  have hopens : Opens (List.intercalate (',' :: gap) (items.map Prod.fst)) := by
    cases items with
    | nil => exact absurd rfl hne
    | cons item items =>
      have hitem := (h item List.mem_cons_self).opens
      cases items with
      | nil =>
        rw [List.map_singleton, List.intercalate_singleton]
        exact hitem
      | cons second items =>
        rw [List.map_cons, List.map_cons, List.intercalate_cons_cons, List.append_assoc]
        exact hitem.append _
  obtain ⟨c, behind, hcons, hvisible, hc⟩ := hopens
  have hother : c ≠ closing := by
    rintro rfl
    rw [hc] at hclosing
    cases hclosing
  rw [hcons, List.cons_append] at hitems ⊢
  rw [readSequence?, skip_append hgap, skip_cons hvisible]
  simp only
  rw [if_neg hother, hitems]

theorem isBlank_of_mem_gap {depth : Nat} {c : CodePoint} 
    (h : c ∈ .char '\n' :: List.replicate depth (.char ' ')) : isBlank c := by
  rw [List.mem_cons, List.mem_replicate] at h
  rcases h with rfl | ⟨-, rfl⟩ <;> decide

/-- The block of the texts that show some items is read as these items. -/
theorem exists_block (depth : Nat) (opening closing : CodePoint) (hclosing : isClosing closing)
    {items : List (Text × α)} (h : ∀ item ∈ items, Shows read item.1 item.2) (hne : items ≠ []) :
    ∃ inside, Dump.block depth opening closing (items.map Prod.fst) = opening :: inside ∧
      ∀ rest, readSequence? read closing (inside ++ rest) = some (items.map Prod.snd, rest) := by
  let tail : Text := '\n' :: List.replicate depth ' '
  let gap : Text := tail ++ "  "
  have htail : ∀ c ∈ tail, isBlank c := fun c hc => isBlank_of_mem_gap hc
  have hgap : ∀ c ∈ gap, isBlank c := by
    intro c hc
    rcases List.mem_append.mp hc with hc | hc
    · exact htail c hc
    · exact isBlank_of_mem_gap (show c ∈ .char '\n' :: List.replicate 2 (.char ' ') from .tail _ hc)
  refine ⟨gap ++ (List.intercalate (.char ',' :: gap) (items.map Prod.fst) ++ (tail ++ [closing])),
    ?_, fun rest => ?_⟩
  · simp [Dump.block, gap, tail]
  · have hread := readSequence?_intercalate h hne hgap htail hclosing rest
    rw [← hread]
    simp

end

/-! ### Values -/

theorem shows_string (depth : Nat) {s : Text} (h : s.Unsplit) :
    Shows (readValue? (depth + 1)) (Dump.string s) (string s) where
  opens := ⟨'"', _, rfl, by decide, by decide⟩
  reads := by
    intro rest _
    have hs := readString?_string h rest
    rw [Dump.string, List.append_assoc, List.cons_append]
    show readValue? (depth + 1) (.char '"' :: (s.flatMap Dump.escape ++ .char '"' :: rest)) = _
    rw [readValue?, hs]
    rfl

theorem shows_boolean (depth : Nat) (b : Bool) :
    Shows (readValue? (depth + 1)) (Dump.boolean b) (boolean b) := by
  cases b with
  | false => exact ⟨⟨'f', _, rfl, by decide, by decide⟩, fun rest _ => rfl⟩
  | true => exact ⟨⟨'t', _, rfl, by decide, by decide⟩, fun rest _ => rfl⟩

theorem exists_ofInt (n : Int) :
    ∃ c s, Decimal.ofInt n = c :: s ∧ (c = '-' ∨ Text.isDigit c) := by
  cases n with
  | negSucc n => exact ⟨'-', _, rfl, .inl rfl⟩
  | ofNat n =>
    obtain ⟨c, s, hcons, hc⟩ := Decimal.exists_ofNat n
    exact ⟨c, s, hcons, .inr hc⟩

/-- A text that begins like a number is read as one. -/
theorem readValue?_number (depth : Nat) {c : CodePoint} (h : c = '-' ∨ Text.isDigit c) (s : Text) :
    readValue? (depth + 1) (c :: s) = (readInteger? (c :: s)).map (Prod.map integer id) := by
  have hother : ∀ d : CodePoint, d ≠ '-' → Text.isDigit d = false → d ≠ c := by
    rintro d hminus hdigit rfl
    rcases h with h | h
    · exact hminus h
    · rw [hdigit] at h
      cases h
  have hquote := hother '"' (by decide) (by decide)
  have harray := hother '[' (by decide) (by decide)
  have hobject := hother '\x7b' (by decide) (by decide)
  have hplain : readPlain? (c :: s) = (readInteger? (c :: s)).map (Prod.map integer id) := by
    have htrue : Text.dropMark? "true" (c :: s) = none :=
      if_neg (hother 't' (by decide) (by decide))
    have hfalse : Text.dropMark? "false" (c :: s) = none :=
      if_neg (hother 'f' (by decide) (by decide))
    have hnull : Text.dropMark? "null" (c :: s) = none :=
      if_neg (hother 'n' (by decide) (by decide))
    simp only [readPlain?, htrue, hfalse, hnull, Option.map_none, Option.none_or]
  rw [← hplain, readValue?]
  · rintro rest ⟨⟩
    exact hquote rfl
  · rintro rest ⟨⟩
    exact harray rfl
  · rintro rest ⟨⟩
    exact hobject rfl

theorem shows_integer (depth : Nat) {n : Int} (hn : n.natAbs < 10 ^ Decimal.maxDigits) :
    Shows (readValue? (depth + 1)) (Decimal.ofInt n) (integer n) := by
  obtain ⟨c, s, hcons, hc⟩ := exists_ofInt n
  refine ⟨⟨c, s, hcons, ?_, ?_⟩, fun rest hrest => ?_⟩
  · rcases hc with rfl | hc
    · rfl
    · exact Bool.eq_false_iff.mpr fun hblank => by simp [isDigit_of_isBlank hblank] at hc
  · rcases hc with rfl | hc
    · rfl
    · exact Bool.eq_false_iff.mpr fun hclosing => by simp [(of_isClosing hclosing).2.2] at hc
  · have hread := readInteger?_ofInt hn hrest
    rw [hcons, List.cons_append] at hread ⊢
    rw [readValue?_number depth hc, hread]
    rfl

theorem shows_array (depth level : Nat) (items : List (Text × Json)) (hne : items ≠ [])
    (h : ∀ item ∈ items, Shows (readValue? depth) item.1 item.2) :
    Shows (readValue? (depth + 1)) (Dump.block level '[' ']' (items.map Prod.fst))
      (array (items.map Prod.snd)) := by
  obtain ⟨inside, hblock, hread⟩ := exists_block level '[' ']' (by decide) h hne
  refine ⟨⟨'[', inside, hblock, by decide, by decide⟩, fun rest _ => ?_⟩
  rw [hblock, List.cons_append, readValue?, hread rest]
  rfl

theorem shows_strings (depth level : Nat) {entries : List Text} (h : ∀ e ∈ entries, e.Unsplit) :
    Shows (readValue? (depth + 2)) (Dump.strings level entries) (array (entries.map string)) := by
  cases entries with
  | nil => exact ⟨⟨'[', "]", rfl, by decide, by decide⟩, fun rest _ => rfl⟩
  | cons e es =>
    have harray := shows_array (depth + 1) level
      ((e :: es).map fun entry => (Dump.string entry, string entry)) (List.cons_ne_nil _ _) (by
        intro item hitem
        obtain ⟨entry, hentry, rfl⟩ := List.mem_map.mp hitem
        exact shows_string depth (h entry hentry))
    rw [List.map_map, List.map_map] at harray
    exact harray

theorem shows_object (depth level : Nat) (members : List (Text × (Text × Json)))
    (hne : members ≠ [])
    (h : ∀ m ∈ members, Shows (readMember? (readValue? depth)) m.1 m.2) :
    Shows (readValue? (depth + 1)) (Dump.block level '\x7b' '\x7d' (members.map Prod.fst))
      (object (members.map Prod.snd)) := by
  obtain ⟨inside, hblock, hread⟩ := exists_block level '\x7b' '\x7d' (by decide) h hne
  refine ⟨⟨'\x7b', inside, hblock, by decide, by decide⟩, fun rest _ => ?_⟩
  rw [hblock, List.cons_append, readValue?, hread rest]
  rfl

theorem shows_member {α : Type} {read : Text → Option (α × Text)} {t : Text} {a : α}
    (h : Shows read t a) {name : Text} (hn : name.Unsplit) :
    Shows (readMember? read) (Dump.string name ++ ": " ++ t) (name, a) where
  opens := ⟨'"', _, rfl, by decide, by decide⟩
  reads := by
    intro rest hrest
    have hname := readString?_string hn ((": " : Text) ++ (t ++ rest))
    have hskip : skip ((": " : Text) ++ (t ++ rest)) = .char ':' :: .char ' ' :: (t ++ rest) :=
      skip_cons (by decide) _
    have hvalue : skip (.char ' ' :: (t ++ rest)) = t ++ rest := (h.opens.append rest).skip
    have hsplit : Dump.string name ++ ": " ++ t ++ rest
        = .char '"' ::
          (name.flatMap Dump.escape ++ .char '"' :: ((": " : Text) ++ (t ++ rest))) := by
      simp [Dump.string]
    rw [hsplit, readMember?, hname]
    simp only [hskip, hvalue, h.reads rest hrest]
    rfl

/-! ### Configurations -/

end Json

/-- The value of a property as JSON. -/
def Kind.toJson : (k : Kind) → k.Value → Json
  | .text, s => .string s
  | .integer, n => .integer n
  | .boolean, b => .boolean b
  | .level, v => .string v.name
  | .seeds, entries => .array (entries.map .string)

/-- The properties of a configuration by their names. -/
def NodeConfig.toJson (c : NodeConfig) : Json :=
  .object (Dump.order.map fun p => (p.name, p.kind.toJson (p.get c)))

/-- An integer has no more digits than are read. -/
def Kind.Fits : (k : Kind) → k.Value → Prop
  | .integer, n => n.natAbs < 10 ^ Decimal.maxDigits
  | _, _ => True

def NodeConfig.Fits (c : NodeConfig) : Prop := ∀ p : Property, p.kind.Fits (p.get c)

/-- No string of a value has a split pair. -/
def Kind.Unsplit : (k : Kind) → k.Value → Prop
  | .text, s => Text.Unsplit s
  | .seeds, entries => ∀ entry ∈ entries, Text.Unsplit entry
  | _, _ => True

/-- Neither the address nor a seed entry has a high half of a pair right before a low half. -/
def NodeConfig.Unsplit (c : NodeConfig) : Prop :=
  c.localIp.Unsplit ∧ ∀ entry ∈ c.seeds, entry.Unsplit

theorem NodeConfig.Unsplit.get {c : NodeConfig} (h : c.Unsplit) (p : Property) :
    p.kind.Unsplit (p.get c) := by
  cases p with
  | localIp => exact h.1
  | seeds => exact h.2
  | _ => trivial

theorem Consistency.unsplit_name (level : Consistency) : level.name.Unsplit := by
  cases level <;> exact Text.unsplit_ofChars _

theorem Property.unsplit_name (p : Property) : p.name.Unsplit := by
  cases p with
  | hot field => cases field <;> exact Text.unsplit_ofChars _
  | _ => exact Text.unsplit_ofChars _

namespace Json

theorem shows_value (depth : Nat) {p : Property} {c : NodeConfig} (h : p.kind.Fits (p.get c))
    (hs : p.kind.Unsplit (p.get c)) :
    Shows (readValue? (depth + 2)) (Dump.value p c) (p.kind.toJson (p.get c)) :=
  Dump.value_cases
    (motive := fun k v shown =>
      k.Fits v → k.Unsplit v → Shows (readValue? (depth + 2)) shown (k.toJson v))
    (fun _ _ hs => shows_string (depth + 1) hs) (fun _ hn _ => shows_integer (depth + 1) hn)
    (fun b _ _ => shows_boolean (depth + 1) b)
    (fun level _ _ => shows_string (depth + 1) level.unsplit_name)
    (fun _ _ hs => shows_strings depth 2 hs) p c h hs

theorem shows_dump (depth : Nat) {c : NodeConfig} (h : c.Fits) (hs : c.Unsplit) :
    Shows (readValue? (depth + 3)) c.dump c.toJson := by
  have hobject := shows_object (depth + 2) 0
    (Dump.order.map fun p => (Dump.member c p, (p.name, p.kind.toJson (p.get c))))
    (List.cons_ne_nil _ _) (by
      intro m hm
      obtain ⟨p, -, rfl⟩ := List.mem_map.mp hm
      exact shows_member (shows_value depth (h p) (hs.get p)) p.unsplit_name)
  rw [List.map_map, List.map_map] at hobject
  exact hobject

/-- The dump of a configuration is read as the properties of that configuration. -/
theorem read?_dump {c : NodeConfig} (h : c.Fits) (hs : c.Unsplit) :
    read? c.dump = some c.toJson := by
  obtain ⟨depth, hdepth⟩ : ∃ depth, c.dump.length = depth + 3 := by
    refine ⟨c.dump.length - 3, ?_⟩
    have hlong : 3 ≤ c.dump.length := by
      simp only [NodeConfig.dump, Dump.block, List.length_append, List.length_cons]
      omega
    omega
  have hdump := shows_dump depth h hs
  have hread := hdump.reads [] rfl
  rw [List.append_nil] at hread
  rw [read?, hdepth, hdump.opens.skip, hread]
  rfl

end Json

/-! ### Configurations by their dumps -/

theorem Consistency.name_injective {level level' : Consistency} (h : level.name = level'.name) :
    level = level' := by
  cases level <;> cases level' <;> first | rfl | exact absurd h (by decide)

theorem Kind.toJson_injective {k : Kind} {v w : k.Value} (h : k.toJson v = k.toJson w) : v = w := by
  cases k with
  | text => exact Json.string.inj h
  | integer => exact Json.integer.inj h
  | boolean => exact Json.boolean.inj h
  | level => exact Consistency.name_injective (Json.string.inj h)
  | seeds => exact List.map_injective_iff.mpr (fun _ _ => Json.string.inj) (Json.array.inj h)

theorem Dump.mem_order (p : Property) : p ∈ Dump.order := by
  have hall : ∀ p ∈ Property.all, p ∈ Dump.order := by decide
  exact hall p p.mem_all

theorem NodeConfig.toJson_injective {c c' : NodeConfig} (h : c.toJson = c'.toJson) : c = c' := by
  have hmembers := List.map_inj_left.mp (Json.object.inj h)
  refine NodeConfig.ext_get fun p => ?_
  exact Kind.toJson_injective (Prod.mk.inj (hmembers p (Dump.mem_order p))).2

/-- Configurations with the same dump are the same. -/
theorem NodeConfig.dump_injective {c c' : NodeConfig} (h : c.Fits) (hs : c.Unsplit)
    (h' : c'.Fits) (hs' : c'.Unsplit) (hdump : c.dump = c'.dump) : c = c' := by
  have hread := Json.read?_dump h hs
  rw [hdump, Json.read?_dump h' hs', Option.some.injEq] at hread
  exact (NodeConfig.toJson_injective hread).symm

end NodeSettings
