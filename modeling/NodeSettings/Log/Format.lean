import NodeSettings.Log.Record
import NodeSettings.Log.Settings
import NodeSettings.Text.Word

/-!
# The format of a line

A format is a template for lines of the log. One that names no field, or with which a sample record
cannot be shown, is replaced by the built-in one. Where the sample fails by a number that is beyond
its bounds, nothing is chosen.
-/

namespace NodeSettings.Log.Format

/-! ### Naming a field -/

/-- Whether a character can end the directive of a field, without regard to case; a dotless and a
dotted i count as an i, and a long s as an s. -/
def isFieldLetter (c : CodePoint) : Bool :=
  ("diouxefgcrsa%" : Text).contains c.toLower || c = '\u0130' || c = '\u0131' || c = '\u017F'

/-- The text after an asterisk or a row of digits, if there is one. -/
def dropExtent? : Text → Option Text
  | '*' :: rest => some rest
  | s => if s.head?.any Text.isDecimalDigit then some (s.dropWhile Text.isDecimalDigit) else none

/-- The text after a point and an extent, if there are both. -/
def dropPrecision? : Text → Option Text
  | '.' :: rest => dropExtent? rest
  | _ => none

def beginsField : Text → Bool
  | '(' :: rest =>
    !(rest.takeWhile Text.isWord).isEmpty &&
      match rest.dropWhile Text.isWord with
      | ')' :: after =>
        let s := after.dropWhile Template.isFlag
        let s := (dropExtent? s).getD s
        let s := (dropPrecision? s).getD s
        s.head?.any isFieldLetter
      | _ => false
  | _ => false

def namesField : Text → Bool
  | [] => false
  | c :: rest => (c = '%' && beginsField rest) || namesField rest

/-! ### The sample -/

def sample : Record := { name := "test", level := Level.info, message := "test" }

/-- The fields of the sample for a template. The time of the sample is not taken as an integer. -/
def sampleFields (m : Machine) (template : Text) : Template.Fields :=
  let fields := sample.fieldsShowing m (.number sample.created)
  if Record.mentionsTime template then
    Record.withTime (Time.format "%Y-%m-%d %H:%M:%S,000" (.ofSeconds sample.created)) fields
  else fields

/-! ### Choosing -/

def builtIn : Text := Variable.format.builtIn

/-- A format and whether another one was passed over for it. -/
structure Choice where
  format : Text
  /-- Whether the format that was given was passed over. -/
  warned : Bool
  deriving DecidableEq, Repr

/-- The format to use where one is given; an empty one means the built-in one. -/
def choose (m : Machine) (given : Text) : Except Template.Excess Choice :=
  if given.isEmpty then .ok ⟨builtIn, false⟩
  else if !namesField given then .ok ⟨builtIn, true⟩
  else
    match Template.check m.room (sampleFields m given) given with
    | .ok _ => .ok ⟨given, false⟩
    | .error (.excess e) => .error e
    | .error _ => .ok ⟨builtIn, true⟩

end NodeSettings.Log.Format
