/-!
# Log records

Operations report what they did as records, in order. A record names the part of the program that
wrote it.
-/

namespace LivePreview

inductive Severity where
  | debug
  | warning
  deriving DecidableEq, Repr

structure LogRecord where
  severity : Severity
  source : String
  message : String
  deriving DecidableEq, Repr

def Severity.text : Severity → String
  | debug => "DEBUG"
  | warning => "WARNING"

def LogRecord.text (r : LogRecord) : String :=
  r.severity.text ++ " " ++ r.source ++ ": " ++ r.message

abbrev Log := List LogRecord

end LivePreview
