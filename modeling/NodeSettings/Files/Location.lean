import NodeSettings.Files.Path

/-!
# Where the properties file is

The file lies in a configuration directory, or below a home directory in a directory of its own. A
directory that is given outright comes before one that the environment names, and a configuration
directory before a home directory. An empty name names no directory.
-/

namespace NodeSettings

abbrev Environment := Text → Option Text

namespace Location

def fileName : Text := "cluster.properties"

def directoryName : Text := "conf"

def directoryVariable : Text := "CLUSTER_CONF"

def homeVariable : Text := "CLUSTER_HOME"

/-- A name, unless it is empty. -/
def named? (name : Option Text) : Option Text := name.filter (!·.isEmpty)

/-- The directory that is given, or else the one that the variable names. -/
def directory? (given : Option Text) (env : Environment) (variableName : Text) : Option Text :=
  named? given <|> named? (env variableName)

/-- The path of the properties file, if a directory is known. -/
def locate (configDirectory homeDirectory : Option Text) (env : Environment) : Option Path :=
  match directory? configDirectory env directoryVariable with
  | some directory => some ((Path.ofText directory).child fileName)
  | none =>
    match directory? homeDirectory env homeVariable with
    | some home => some (((Path.ofText home).child directoryName).child fileName)
    | none => none

end Location

end NodeSettings
