import NodeSettings.CommandLine.Overrides
import NodeSettings.Dump
import NodeSettings.Normalization
import NodeSettings.Property.Overlay
import NodeSettings.Document.Content
import NodeSettings.Files.Location

/-!
# Notices

What the library reports while it works. A notice says what happened; its severity, the part of
the library that reports it and its words follow from that.
-/

namespace NodeSettings

/-! ### Errors of a configuration -/

inductive ConfigError where
  | rejected (property : Property) (raw : Text) (why : Rejection)
  | invalid (violation : Violation)
  | refused (path : Text) (flaw : ContentFlaw)
  deriving DecidableEq, Repr

namespace ConfigError

/-- The key at fault; none where it is not a property but the file. -/
def key : ConfigError → Text
  | .rejected p _ _ => p.key
  | .invalid v => v.property.name
  | .refused _ _ => []

def raw : ConfigError → Text
  | .rejected _ raw _ => raw
  | .invalid v => v.raw
  | .refused _ flaw => flaw.raw

def message : ConfigError → Text
  | .rejected p raw why => why.message p.key raw
  | .invalid v => v.message
  | .refused path flaw => flaw.message path

end ConfigError

/-! ### Notices -/

inductive Severity where
  | debug
  | info
  | warning
  | error
  deriving DecidableEq, Repr

def Severity.name : Severity → Text
  | .debug => "DEBUG"
  | .info => "INFO"
  | .warning => "WARNING"
  | .error => "ERROR"

inductive Reporter where
  | loader
  | resolver
  | reload
  | node
  deriving DecidableEq, Repr

def Reporter.name : Reporter → Text
  | .loader => "clusterconf.config.loader"
  | .resolver => "clusterconf.config.resolver"
  | .reload => "clusterconf.config.reload"
  | .node => "run_node"

inductive Notice where
  | noLocation
  | reading (path : Text)
  | notOpened (path : Text) (e : AccessError)
  | overridesRefused (fault : CommandLine.Fault) (arguments : List Text)
  | portOverridden (flag : CommandLine.PortFlag) (port : Int)
  | seedsOverridden (entries : List Text)
  | overridesIgnored
  | overridesSkipped
  | normalized (localIp : Text) (entries : List Text)
  | nothingToReload
  | reloading (path : Text)
  | settingsReplaced (changes : List (HotField × Int))
  | configRefused (e : ConfigError)
  | notNormalized (e : Normalization.Failure)
  | resolved (c : NodeConfig)
  deriving DecidableEq, Repr

def CommandLine.PortFlag.words : CommandLine.PortFlag → Text
  | .metaPort => "local meta port"
  | .dataPort => "local data port"
  | .clientPort => "local client port"

def showChanges (changes : List (HotField × Int)) : Text :=
  let items := changes.map fun change => Text.quoted change.1.name ++ ": " ++ Decimal.ofInt change.2
  .char '\x7b' :: List.intercalate (", " : Text) items ++ [.char '\x7d']

namespace Notice

def severity : Notice → Severity
  | .noLocation | .notOpened .. | .overridesIgnored | .overridesSkipped | .nothingToReload =>
    .warning
  | .reading _ | .reloading _ | .settingsReplaced _ | .resolved _ => .info
  | .portOverridden .. | .seedsOverridden _ | .normalized .. => .debug
  | .overridesRefused .. | .configRefused _ | .notNormalized _ => .error

def reporter : Notice → Reporter
  | .noLocation | .reading _ | .notOpened .. | .overridesRefused .. | .portOverridden ..
  | .seedsOverridden _ | .overridesIgnored => .loader
  | .normalized .. => .resolver
  | .nothingToReload | .reloading _ | .settingsReplaced _ => .reload
  | .overridesSkipped | .configRefused _ | .notNormalized _ | .resolved _ => .node

def message : Notice → Text
  | .noLocation =>
    "Cannot find " ++ Location.homeVariable ++ " or " ++ Location.directoryVariable
      ++ " environment variable when loading config file " ++ Location.fileName
      ++ ", use default configuration"
  | .reading path => "Start to read config file " ++ path
  | .notOpened path e =>
    "Fail to find config file " ++ path ++ ": " ++ e.message ++ ", use default configuration"
  | .overridesRefused fault arguments =>
    "replace properties failed, use previous conf params: " ++ fault.message ++ " (argv="
      ++ Text.quotedList arguments ++ ")"
  | .portOverridden flag port => "replace " ++ flag.words ++ " with=" ++ Decimal.ofInt port
  | .seedsOverridden entries => "replace seed nodes with=" ++ Text.quotedList entries
  | .overridesIgnored =>
    "Ignoring command-line overrides, keeping configuration from " ++ Location.fileName
  | .overridesSkipped => "Continuing without command-line overrides"
  | .normalized localIp entries =>
    "after replace, the localIP=" ++ localIp ++ ", seedUrls=" ++ Text.quotedList entries
  | .nothingToReload => "No config file configured, skip reloading hot properties"
  | .reloading path => "Start to reload config file " ++ path
  | .settingsReplaced changes => "Set cluster configuration " ++ showChanges changes
  | .configRefused e => "Invalid cluster configuration: " ++ e.message
  | .notNormalized e => "Cannot normalize cluster addresses: " ++ e.message
  | .resolved c => "Resolved cluster configuration:\n" ++ c.dump

end Notice

end NodeSettings
