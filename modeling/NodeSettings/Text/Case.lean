import NodeSettings.Text.Basic

/-!
# Letters in two cases

Words of the basic range are compared with texts of any script. Besides the letters of that range a
few others have one of its letters as their small, folded or capital form; only these few can make
a text equal to a word of the basic range, and all others are left as they are.
-/

namespace NodeSettings.Text

/-- The small form of a character; the Kelvin sign is a capital K. -/
def lowerChar (c : CodePoint) : CodePoint := if c = '\u212A' then 'k' else c.toLower

def lower (s : Text) : Text := s.map lowerChar

/-- The form of a character without regard to case; the long s is an s. -/
def foldChar (c : CodePoint) : CodePoint := if c = '\u017F' then 's' else lowerChar c

/-- The text without regard to case. -/
def fold (s : Text) : Text := s.map foldChar

/-- The capital form of a character, which may have several letters. -/
def upperChar (c : CodePoint) : Text :=
  match c with
  | '\u0131' => "I"
  | '\u017F' => "S"
  | '\u00DF' => "SS"
  | '\uFB00' => "FF"
  | '\uFB01' => "FI"
  | '\uFB02' => "FL"
  | '\uFB03' => "FFI"
  | '\uFB04' => "FFL"
  | '\uFB05' | '\uFB06' => "ST"
  | _ => [c.toUpper]

def upper (s : Text) : Text := s.flatMap upperChar

end NodeSettings.Text
