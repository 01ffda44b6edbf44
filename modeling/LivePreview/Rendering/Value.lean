import LivePreview.Code.Expr
import LivePreview.Failure

/-!
# Values and their output

What parameters hold when a component is rendered, and how a value is shown: text is escaped unless
it is known to be safe, and nothing is shown as nothing.
-/

namespace LivePreview.Rendering

open LivePreview.Code (Expr)

inductive Value where
  | none
  | truth (value : Bool)
  | integer (value : Int)
  | text (value : String)
  /-- Text that is safe as it is. -/
  | markup (value : String)
  deriving DecidableEq, Repr

/-- The characters that a character is shown as. -/
def escapedChar (c : Char) : List Char :=
  if c = '&' then "&amp;".toList
  else if c = '<' then "&lt;".toList
  else if c = '>' then "&gt;".toList
  else if c = '"' then "&quot;".toList
  else if c = '\'' then "&#x27;".toList
  else [c]

def escapedText (s : String) : String := String.ofList (s.toList.flatMap escapedChar)

/-- The output for a value. -/
def Value.output : Value → String
  | none => ""
  | truth true => "True"
  | truth false => "False"
  | integer n => toString n
  | text s => escapedText s
  | markup s => s

/-- The name of the type of a value. -/
def Value.typeName : Value → String
  | none => "NoneType"
  | truth _ => "bool"
  | integer _ => "int"
  | text _ => "str"
  | markup _ => "Markup"

/-- Names and their values; of two entries of a name the first counts. -/
abbrev Env := List (String × Value)

def lookup (env : Env) (name : String) : Option Value :=
  (env.find? (·.1 = name)).map (·.2)

/-- The value of a name or a literal. What else an expression may be is not evaluated here and
counts as nothing. -/
def evaluate (env : Env) : Expr → Except HostFault Value
  | .name id =>
    match lookup env id with
    | some v => .ok v
    | none => .error (.undefinedName id)
  | .constant .true => .ok (.truth true)
  | .constant .false => .ok (.truth false)
  | .constant (.integer n) => .ok (.integer n)
  | .constant (.text value _) => .ok (.text ((Text.Points.toString? value).getD ""))
  | .unary .minus e =>
    match e with
    | .constant (.integer n) => .ok (.integer (-n))
    | _ => .ok .none
  | _ => .ok .none

end LivePreview.Rendering
