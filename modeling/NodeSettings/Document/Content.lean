import NodeSettings.Document.Reader
import NodeSettings.Files.Access
import NodeSettings.Text.Utf8

/-!
# The content of a properties file

A properties file is a document in octets. It is refused as a whole if its octets are no text, and
otherwise if one of its lines is no binding.
-/

namespace NodeSettings

inductive ContentFlaw where
  | notText (flaw : Utf8.Flaw)
  | malformedLine (line : Document.MalformedLine)
  deriving DecidableEq, Repr

namespace ContentFlaw

def raw : ContentFlaw → Text
  | .notText flaw => Text.quotedOctets flaw.octets
  | .malformedLine line => line.source

def message (path : Text) : ContentFlaw → Text
  | .notText flaw =>
    "Config file " ++ path ++ " is not valid UTF-8: byte 0x" ++ Text.hexDigits 2 flaw.first.toNat
      ++ " at offset " ++ Decimal.ofNat flaw.offset
  | .malformedLine line =>
    "Cannot parse line " ++ Decimal.ofNat line.line ++ " of " ++ path ++ ": "
      ++ Text.quoted line.source

end ContentFlaw

def readContent (octets : List UInt8) : Except ContentFlaw Bindings :=
  match Utf8.decode octets with
  | .error flaw => .error (.notText flaw)
  | .ok document =>
    match Document.bindings document with
    | .error line => .error (.malformedLine line)
    | .ok bindings => .ok bindings

inductive ReadFailure where
  | unopened (e : OpenError)
  | refused (flaw : ContentFlaw)
  deriving DecidableEq, Repr

def readProperties (read : FileReader) (path : Text) : Except ReadFailure Bindings :=
  match read path with
  | .error e => .error (.unopened e)
  | .ok octets =>
    match readContent octets with
    | .error flaw => .error (.refused flaw)
    | .ok bindings => .ok bindings

end NodeSettings
