import NodeSettings.Text.Printable

/-!
# Quoted text

How a message shows a text, a list of texts or a run of octets. A text stands in single quotes
unless it holds a single and no double quote; the quote in use and the backslash are escaped, and
so is every character that does not print.
-/

namespace NodeSettings.Text

/-! ### Escapes -/

def hexDigits (width n : Nat) : Text :=
  let digits := Text.ofChars (Nat.toDigits 16 n)
  List.replicate (width - digits.length) (.char '0') ++ digits

/-- The escape of a character by its code point, in the shortest of the three widths. -/
def codeEscape (c : CodePoint) : Text :=
  if c.toNat < 0x100 then "\\x" ++ hexDigits 2 c.toNat
  else if c.toNat < 0x10000 then "\\u" ++ hexDigits 4 c.toNat
  else "\\U" ++ hexDigits 8 c.toNat

/-- How a character is written between two `quote`s, where `shows` holds of the characters that
stand for themselves. -/
def escape (shows : CodePoint → Bool) (quote c : CodePoint) : Text :=
  if c = quote || c = '\\' then ['\\', c]
  else if c = '\t' then "\\t"
  else if c = '\n' then "\\n"
  else if c = '\r' then "\\r"
  else if shows c then [c]
  else codeEscape c

/-! ### Quoted texts -/

/-- The quote that needs fewer escapes, and the single one if neither does. -/
def quoteFor (s : Text) : CodePoint :=
  if s.contains '\'' && !s.contains '"' then '"' else '\''

/-- The text between quotes, where `shows` holds of the characters that stand for themselves. -/
def quotedBy (shows : CodePoint → Bool) (s : Text) : Text :=
  let quote := quoteFor s
  quote :: s.flatMap (escape shows quote) ++ [quote]

def quoted (s : Text) : Text := quotedBy isPrintable s

def isPlain (c : CodePoint) : Bool := 0x20 ≤ c.toNat && c.toNat < 0x7F

/-- The text between quotes, with every character beyond the basic range escaped. -/
def plainQuoted (s : Text) : Text := quotedBy isPlain s

def quotedOctets (octets : List UInt8) : Text :=
  'b' :: quotedBy isPlain (octets.map fun octet => CodePoint.ofNat octet.toNat)

/-! ### Lists -/

def bracketed (items : List Text) : Text :=
  .char '[' :: List.intercalate (", " : Text) items ++ [.char ']']

def quotedList (items : List Text) : Text := bracketed (items.map quoted)

end NodeSettings.Text
