import NodeSettings.Config.Validation

/-!
# The dump of a configuration

A configuration is shown as an object with one member a line, two spaces deep, and its seed
entries one a line below. The dump is made of characters of the basic range only: a character
beyond it is shown by its code units in sixteen bits.
-/

namespace NodeSettings.Dump

/-! ### Strings -/

/-- The sixteen-bit code units of a character. -/
def codeUnits (c : CodePoint) : List Nat :=
  if c.toNat < 0x10000 then [c.toNat]
  else [0xD800 + (c.toNat - 0x10000) / 0x400, 0xDC00 + (c.toNat - 0x10000) % 0x400]

def unitEscape (c : CodePoint) : Text := (codeUnits c).flatMap fun n => "\\u" ++ Text.hexDigits 4 n

def escape (c : CodePoint) : Text :=
  if c = '"' || c = '\\' then ['\\', c]
  else if c = '\n' then "\\n"
  else if c = '\r' then "\\r"
  else if c = '\t' then "\\t"
  else if c = '\x08' then "\\b"
  else if c = '\x0C' then "\\f"
  else if Text.isPlain c then [c]
  else unitEscape c

def string (s : Text) : Text := .char '"' :: s.flatMap escape ++ [.char '"']

/-! ### Values -/

def boolean (b : Bool) : Text := if b then "true" else "false"

/-- Items a line each, `depth` spaces deep, between two brackets. -/
def block (depth : Nat) (opening closing : CodePoint) (items : List Text) : Text :=
  let gap : Text := List.replicate depth ' '
  let separator : Text := .char ',' :: .char '\n' :: gap ++ ("  " : Text)
  opening :: '\n' :: gap ++ "  " ++ List.intercalate separator items ++ .char '\n' :: gap
    ++ [closing]

/-- Strings a line each, `depth` spaces deep; no strings take no line. -/
def strings (depth : Nat) : List Text → Text
  | [] => "[]"
  | items => block depth '[' ']' (items.map string)

def value (p : Property) (c : NodeConfig) : Text :=
  match p.kind, p.get c with
  | .text, s => string s
  | .integer, n => Decimal.ofInt n
  | .boolean, b => boolean b
  | .level, level => string level.name
  | .seeds, entries => strings 2 entries

/-- The properties in the order of the dump. -/
def order : List Property :=
  [.localIp, .metaPort, .dataPort, .clientPort, .seeds, .replicas, .consistency,
   .hot .maxClients, .hot .connectionTimeout, .hot .maxRemovedLogSize, .queryTimeout, .maxLogs,
   .logDeletionInterval, .batchCatchUp, .autoCreateSchema, .callCompression]

def member (c : NodeConfig) (p : Property) : Text := string p.name ++ ": " ++ value p c

end NodeSettings.Dump

namespace NodeSettings

def NodeConfig.dump (c : NodeConfig) : Text :=
  Dump.block 0 '\x7b' '\x7d' (Dump.order.map (Dump.member c))

end NodeSettings
