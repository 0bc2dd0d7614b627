import NodeSettings.Property.Bindings
import NodeSettings.Property.Value

/-!
# Overlaying properties

A set of bindings is laid over a configuration as a whole: every bound property is read before any
field is written, and the first property in the order of the table that cannot be read refuses
all. Keys of no property count for nothing.
-/

namespace NodeSettings

structure Assignment where
  property : Property
  value : property.kind.Value

def Assignment.apply (a : Assignment) (c : NodeConfig) : NodeConfig := a.property.set a.value c

namespace Overlay

inductive Failure where
  | rejected (property : Property) (raw : Text) (why : Rejection)
  | tooManyDigits (count : Nat)
  deriving DecidableEq, Repr

def Failure.ofRefusal (property : Property) (raw : Text) : Refusal → Failure
  | .rejected why => .rejected property raw why
  | .tooManyDigits count => .tooManyDigits count

/-- The assignment that the bindings make to a property, if they bind it. -/
def assignment? (bindings : Bindings) (p : Property) : Except Failure (Option Assignment) :=
  match bindings.get? p.key with
  | none => .ok none
  | some raw =>
    match p.read raw with
    | .ok value => .ok (some ⟨p, value⟩)
    | .error refusal => .error (.ofRefusal p raw refusal)

/-- The assignments that the bindings make to the given properties, in their order. -/
def assignments (bindings : Bindings) : List Property → Except Failure (List Assignment)
  | [] => .ok []
  | p :: rest =>
    match assignment? bindings p with
    | .error e => .error e
    | .ok a? =>
      match assignments bindings rest with
      | .error e => .error e
      | .ok list => .ok (a?.toList ++ list)

/-- The configuration once the bindings are laid over it, and whether they were. -/
def apply (bindings : Bindings) (c : NodeConfig) : NodeConfig × Except Failure Unit :=
  match assignments bindings Property.all with
  | .error e => (c, .error e)
  | .ok list => (list.foldl (fun c a => a.apply c) c, .ok ())

end Overlay

end NodeSettings
