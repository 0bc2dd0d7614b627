import NodeSettings.Text.Case
import NodeSettings.Text.Decimal

/-!
# Levels

How much a record of the log matters, as a number, and the names of some of these numbers. A name is
read without regard to case, and a name that means nothing is read as the level of information. Two
names belong to the log otherwise and are no levels.
-/

namespace NodeSettings.Log

abbrev Level := Int

namespace Level

/-! ### Numbers -/

def debug : Level := 10

def info : Level := 20

def warning : Level := 30

def error : Level := 40

def critical : Level := 50

/-- No level at all, so that every record with a level reaches it. -/
def unset : Level := 0

/-! ### Writing -/

/-- The name of a level; a level without one is named by its number. -/
def name (level : Level) : Text :=
  if level = critical then "CRITICAL"
  else if level = error then "ERROR"
  else if level = warning then "WARNING"
  else if level = info then "INFO"
  else if level = debug then "DEBUG"
  else if level = unset then "NOTSET"
  else "Level " ++ Decimal.ofInt level

/-! ### Reading -/

def named : List (Text × Level) :=
  [("CRITICAL", critical), ("FATAL", critical), ("ERROR", error), ("WARN", warning),
   ("WARNING", warning), ("INFO", info), ("DEBUG", debug), ("NOTSET", unset)]

inductive Taken where
  | template
  | styles
  deriving DecidableEq, Repr

def taken : List (Text × Taken) := [("BASIC_FORMAT", .template), ("_STYLES", .styles)]

/-- What there is to say where a taken name is to be a level. -/
def Taken.message : Taken → Text
  | .template => "Unknown level: '%(levelname)s:%(name)s:%(message)s'"
  | .styles =>
    "Level not an integer or a valid string: "
      ++ "\x7b'%': (<class 'logging.PercentStyle'>, '%(levelname)s:%(name)s:%(message)s'), "
      ++ "'\x7b': (<class 'logging.StrFormatStyle'>, "
      ++ "'\x7blevelname\x7d:\x7bname\x7d:\x7bmessage\x7d'), "
      ++ "'$': (<class 'logging.StringTemplateStyle'>, "
      ++ "'$\x7blevelname\x7d:$\x7bname\x7d:$\x7bmessage\x7d')\x7d"

def ofName (name : Text) : Except Taken Level :=
  let capitals := Text.upper name
  match taken.lookup capitals with
  | some taken => .error taken
  | none => .ok ((named.lookup capitals).getD info)

end Level

end NodeSettings.Log
