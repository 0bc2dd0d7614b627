import NodeSettings.Document.Entry
import NodeSettings.Files.Location

/-!
# Values that refer to variables

A value may refer to variables by name, each reference with or without a text to stand in for a
variable that is missing. The values of a document are resolved in order: a reference sees the
bindings resolved before it and, for a name that none of them binds, the environment. A name bound
without a value stands for the empty text, even where a text to stand in is given.
-/

namespace NodeSettings.Document

/-! ### References -/

structure Reference where
  name : Text
  standIn : Option Text
  deriving DecidableEq, Repr

def isReferenceName (c : CodePoint) : Bool := c ≠ '\x7d' && c ≠ ':'

def isOpen (c : CodePoint) : Bool := c ≠ '\x7d'

/-- The reference whose opening brace has been taken, and the text after its closing brace. -/
def readReference? (s : Text) : Option (Reference × Text) :=
  let name := s.takeWhile isReferenceName
  match s.dropWhile isReferenceName with
  | ':' :: '-' :: rest =>
    match rest.dropWhile isOpen with
    | _ :: after => some (⟨name, some (rest.takeWhile isOpen)⟩, after)
    | [] => none
  | ':' :: _ => none
  | _ :: after => some (⟨name, none⟩, after)
  | [] => none

theorem length_lt_of_readReference? {s after : Text} {r : Reference}
    (h : readReference? s = some (r, after)) : after.length < s.length := by
  have hs := (List.dropWhile_sublist isReferenceName (l := s)).length_le
  unfold readReference? at h
  simp only at h
  split at h
  · rename_i rest he
    have hr := (List.dropWhile_sublist isOpen (l := rest)).length_le
    rw [he] at hs
    split at h
    · rename_i c tail ht
      rw [ht] at hr
      simp only [Option.some.injEq, Prod.mk.injEq] at h
      simp only [List.length_cons, ← h.2] at hs hr ⊢
      omega
    · simp at h
  · simp at h
  · rename_i c tail _ he
    rw [he] at hs
    simp only [Option.some.injEq, Prod.mk.injEq] at h
    simp only [List.length_cons, ← h.2] at hs ⊢
    omega
  · simp at h

/-! ### Values in parts -/

inductive Part where
  | char (c : CodePoint)
  | reference (r : Reference)
  deriving DecidableEq, Repr

/-- The parts of a value. What looks like the beginning of a reference and is none stands for
itself. -/
def parts : Text → List Part
  | [] => []
  | '$' :: '\x7b' :: rest =>
    match _h : readReference? rest with
    | some (r, after) => .reference r :: parts after
    | none => .char '$' :: parts ('\x7b' :: rest)
  | c :: rest => .char c :: parts rest
termination_by s => s.length
decreasing_by
  · have := length_lt_of_readReference? _h
    simp only [List.length_cons]
    omega
  · simp
  · simp

/-- The references in a value, in order. -/
def references (value : Text) : List Reference :=
  (parts value).filterMap fun
    | .reference r => some r
    | .char _ => none

/-! ### Resolving -/

/-- What names stand for: for each name nothing, a binding without a value, or a value. -/
abbrev Scope := Text → Option (Option Text)

/-- The text that a reference stands for. -/
def Reference.resolve (scope : Scope) (r : Reference) : Text :=
  match scope r.name with
  | some value => value.getD []
  | none => r.standIn.getD []

/-- The text that a part stands for. -/
def Part.resolve (scope : Scope) : Part → Text
  | .char c => [c]
  | .reference r => r.resolve scope

def resolveValue (scope : Scope) (value : Text) : Text := (parts value).flatMap (·.resolve scope)

/-- A value means the same in two scopes that agree on the names it refers to. -/
theorem resolveValue_congr {scope other : Scope} {value : Text}
    (h : ∀ r ∈ references value, scope r.name = other r.name) :
    resolveValue scope value = resolveValue other value := by
  have hpart : ∀ part ∈ parts value, part.resolve scope = part.resolve other := by
    intro part hp
    cases part with
    | char c => rfl
    | reference r =>
      have hr : r ∈ references value := List.mem_filterMap.mpr ⟨_, hp, rfl⟩
      simp [Part.resolve, Reference.resolve, h r hr]
  unfold resolveValue
  generalize parts value = list at hpart
  induction list with
  | nil => rfl
  | cons part rest ih =>
    rw [List.flatMap_cons, List.flatMap_cons, hpart part List.mem_cons_self,
      ih fun p hp => hpart p (List.mem_cons_of_mem part hp)]

/-- The last binding of a name among pairs that were resolved one after the other. -/
def lookup? (pairs : List Pair) (name : Text) : Option (Option Text) := pairs.reverse.lookup name

def scopeOf (env : Environment) (pairs : List Pair) : Scope := fun name =>
  match lookup? pairs name with
  | some value => some value
  | none => (env name).map some

/-- Pairs resolved in order, after those that are resolved already. -/
def resolveAfter (env : Environment) (resolved : List Pair) : List Pair → List Pair
  | [] => resolved
  | (key, value) :: rest =>
    resolveAfter env (resolved ++ [(key, value.map (resolveValue (scopeOf env resolved)))]) rest

def resolvePairs (env : Environment) (pairs : List Pair) : List Pair := resolveAfter env [] pairs

end NodeSettings.Document
