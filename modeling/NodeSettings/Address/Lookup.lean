import NodeSettings.Text.Quoted

/-!
# Looking up a host

A directory answers a host with a list of addresses or with the reason why it has none. The first
address in the four-part family is preferred, and the first of all where that family is absent.
A computation that looks up hosts carries the hosts it asked for, in order.
-/

namespace NodeSettings.Address

/-! ### Directories -/

inductive Answer where
  | addresses (list : List Text)
  | failure (reason : Text)
  deriving DecidableEq, Repr

abbrev Directory := Text → Answer

/-- The directory of a table; a host that the table lacks has no address. -/
def Directory.ofTable (table : List (Text × Answer)) : Directory := fun host =>
  (table.lookup host).getD (.failure "[Errno -2] Name or service not known")

structure Unresolved where
  host : Text
  /-- Why it has no address. -/
  reason : Text
  deriving DecidableEq, Repr

/-- A reason as it follows a message: a reason without text is left out. -/
def reasonClause (reason : Text) : Text := if reason.isEmpty then [] else ": " ++ reason

def Unresolved.message (e : Unresolved) : Text :=
  "Cannot resolve host " ++ Text.quoted e.host ++ reasonClause e.reason

def isFourPartFamily (address : Text) : Bool := !address.contains ':'

/-- The address that stands for a host with the given addresses. -/
def preferred? (addresses : List Text) : Option Text :=
  addresses.find? isFourPartFamily <|> addresses.head?

def resolve (directory : Directory) (host : Text) : Except Unresolved Text :=
  match directory host with
  | .failure reason => .error ⟨host, reason⟩
  | .addresses list =>
    match preferred? list with
    | some address => .ok address
    | none => .error ⟨host, "no address returned"⟩

/-! ### Computations that look up hosts -/

structure Asking (ε α : Type) where
  result : Except ε α
  /-- The hosts looked up, in order, those without an address included. -/
  hosts : List Text

namespace Asking

def ofExcept {ε α : Type} (result : Except ε α) : Asking ε α := ⟨result, []⟩

/-- One computation after another; a failure of the first ends both. -/
def andThen {ε α β : Type} (first : Asking ε α) (next : α → Asking ε β) : Asking ε β :=
  match first.result with
  | .error e => ⟨.error e, first.hosts⟩
  | .ok a => ⟨(next a).result, first.hosts ++ (next a).hosts⟩

end Asking

end NodeSettings.Address
