import NodeSettings.Text.Blank
import NodeSettings.Text.Case

/-!
# Consistency levels

The guarantee that a replica enforces on reads and writes. A level is named by a word in any case.
-/

namespace NodeSettings

inductive Consistency where
  | strong
  | mid
  | weak
  deriving DecidableEq, Repr

namespace Consistency

/-- The levels in the order in which messages list them. -/
def all : List Consistency := [.strong, .mid, .weak]

def name : Consistency → Text
  | .strong => "strong"
  | .mid => "mid"
  | .weak => "weak"

/-- The level that a text names, in any case and with blank characters around it. -/
def parse? (s : Text) : Option Consistency :=
  all.find? fun level => level.name = Text.lower (Text.trim s)

end Consistency

end NodeSettings
