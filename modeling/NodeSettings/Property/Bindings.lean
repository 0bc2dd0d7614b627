import NodeSettings.Text.Basic

/-!
# Bindings

What a properties file says: keys with their values, in order. A later binding of a key replaces
an earlier one, so one list after another is the first overlaid with the second.
-/

namespace NodeSettings

/-- Keys with their values, in order. -/
abbrev Bindings := List (Text × Text)

namespace Bindings

/-- The value that a key is bound to: the last one. -/
def get? : Bindings → Text → Option Text
  | [], _ => none
  | b :: rest, key => (get? rest key).or (if b.1 = key then some b.2 else none)

/-- The bindings of a second list win. -/
theorem get?_append (first second : Bindings) (key : Text) :
    get? (first ++ second) key = (get? second key).or (get? first key) := by
  induction first with
  | nil => simp [get?]
  | cons b rest ih => simp [get?, ih, Option.or_assoc]

/-- The bindings that are not replaced by later ones. -/
def effective : Bindings → Bindings
  | [] => []
  | b :: rest => if rest.any (·.1 = b.1) then effective rest else b :: effective rest

end Bindings

end NodeSettings
