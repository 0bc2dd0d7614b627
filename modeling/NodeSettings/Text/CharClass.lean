import NodeSettings.Text.Basic

/-!
# Classes of characters

A class is a list of ranges of code points. The classes that a rule of this library names directly
(digits, letters of the basic range) are given by their bounds.
-/

namespace NodeSettings.Text

/-- A class of characters, given by ranges of code points with both ends included. -/
abbrev Ranges := List (Nat × Nat)

def Ranges.has (ranges : Ranges) (c : CodePoint) : Bool :=
  ranges.any fun range => range.1 ≤ c.toNat && c.toNat ≤ range.2

def isDigit (c : CodePoint) : Bool := '0' ≤ c && c ≤ '9'

def isDigits (s : Text) : Bool := !s.isEmpty && s.all isDigit

def isCapital (c : CodePoint) : Bool := 'A' ≤ c && c ≤ 'Z'

def isHexDigit (c : CodePoint) : Bool :=
  isDigit c || ('a' ≤ c && c ≤ 'f') || ('A' ≤ c && c ≤ 'F')

end NodeSettings.Text
