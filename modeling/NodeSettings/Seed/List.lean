import NodeSettings.Seed.Basic
import NodeSettings.Text.Blank

/-!
# Lists of seed entries

A list of seeds is written as entries with commas between them. Blank characters around an entry
and entries without text count for nothing; the order and the repetitions are kept. A list is read
only if every one of its entries describes a seed.
-/

namespace NodeSettings.Seed

/-- The entries between the commas of a text, trimmed, without the empty ones. -/
def entries (list : Text) : List Text :=
  ((Text.splitOn ',' list).map Text.trim).filter (!·.isEmpty)

def firstMalformed? (entries : List Text) : Option MalformedSeed :=
  (entries.find? fun entry => (parse? entry).isNone).map MalformedSeed.mk

/-- The entries of a list, or the first of them that describes no seed. -/
def parseList (list : Text) : Except MalformedSeed (List Text) :=
  match firstMalformed? (entries list) with
  | some e => .error e
  | none => .ok (entries list)

end NodeSettings.Seed
