import NodeSettings.Document.Interpolation
import NodeSettings.Document.Reader
import NodeSettings.Files.Access
import NodeSettings.Text.Case
import NodeSettings.Text.Utf8

/-!
# Settings of the log

The log has a level, a format, a date format and two switches. Each setting is a variable: its
value in the environment comes first, even if it is empty, then the one that the file of variables
binds to it, then the built-in one.
-/

namespace NodeSettings.Log

/-! ### Variables -/

inductive Variable where
  | level
  | format
  | dateFormat
  | highlighting
  | fileOutput
  deriving DecidableEq, Repr

namespace Variable

def all : List Variable := [.level, .format, .dateFormat, .highlighting, .fileOutput]

def name : Variable → Text
  | .level => "LOG_LEVEL"
  | .format => "LOG_FORMAT"
  | .dateFormat => "LOG_DATE_FORMAT"
  | .highlighting => "LOG_CONSOLE_HIGHLIGHTING"
  | .fileOutput => "LOG_FILE_OUTPUT"

def builtIn : Variable → Text
  | .level => "INFO"
  | .format => "%(asctime)s - %(levelname)s - %(name)s - %(message)s"
  | .dateFormat => "%Y-%m-%dT%H:%M:%S"
  | .highlighting => "True"
  | .fileOutput => "False"

def value (env : Environment) (pairs : List Document.Pair) (v : Variable) : Text :=
  match env v.name with
  | some value => value
  | none => ((Document.lookup? pairs v.name).join).getD v.builtIn

end Variable

def isOn (s : Text) : Bool := Text.fold (Text.trim s) = ("true" : Text)

/-! ### The settings -/

structure Settings where
  level : Text := Variable.level.builtIn
  format : Text := Variable.format.builtIn
  dateFormat : Text := Variable.dateFormat.builtIn
  highlighting : Bool := isOn Variable.highlighting.builtIn
  fileOutput : Bool := isOn Variable.fileOutput.builtIn
  deriving DecidableEq, Repr

namespace Settings

def ofPairs (env : Environment) (pairs : List Document.Pair) : Settings where
  level := Variable.level.value env pairs
  format := Variable.format.value env pairs
  dateFormat := Variable.dateFormat.value env pairs
  highlighting := isOn (Variable.highlighting.value env pairs)
  fileOutput := isOn (Variable.fileOutput.value env pairs)

def pairsIn (document : Text) : List Document.Pair := Document.pairs (Text.unifyLineEnds document)

def ofDocument (env : Environment) (document : Text) : Settings :=
  ofPairs env (Document.resolvePairs env (pairsIn document))

def namesIn (document : Text) : List Text :=
  (pairsIn document).flatMap fun pair => (Document.references (pair.2.getD [])).map (·.name)

def fileName : Text := ".env"

/-- The settings in an environment, over the file of variables if there is one. -/
def load (read : FileReader) (env : Environment) : Except Utf8.Flaw Settings :=
  match read fileName with
  | .error _ => .ok (ofPairs env [])
  | .ok octets => (Utf8.decode octets).map (ofDocument env)

end Settings

end NodeSettings.Log
