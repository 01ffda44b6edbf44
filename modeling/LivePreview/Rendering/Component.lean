import LivePreview.Rendering.Value
import LivePreview.Template.Node
import LivePreview.Text.Normal

/-!
# Components that can be rendered

A component takes its parameters by name. Before it renders, the given values are bound: each must
belong to a parameter, and every parameter without a default must be given. The faults say so in the
words of the language that generated components run in.
-/

namespace LivePreview.Rendering

open LivePreview.Text (normalForm)

/-- A parameter with its default. The name is in normal form. -/
structure Parameter where
  name : String
  default : Option Value

structure Component where
  name : String
  parameters : List Parameter
  /-- Whether a parameter takes the place of the given content. -/
  takesChildren : Bool
  body : List Template.Node
  /-- The modules that were there before, and where their components stand in the library. -/
  modules : List (String × Nat)

/-- Texts between quotes, with commas and a last word between them. -/
def listed (names : List String) : String :=
  match (names.map quotedText).reverse with
  | [] => ""
  | [a] => a
  | [b, a] => a ++ " and " ++ b
  | last :: others => ", ".intercalate others.reverse ++ ", and " ++ last

def Component.initializer (c : Component) : String := c.name ++ ".__init__()"

def Component.unexpected (c : Component) (name : String) : HostFault :=
  .callMismatch (c.initializer ++
    if name = "self" then " got multiple values for argument 'self'"
    else " got an unexpected keyword argument '" ++ name ++ "'")

def Component.missing (c : Component) (names : List String) : HostFault :=
  .callMismatch (c.initializer ++ " missing " ++ toString names.length ++
    " required keyword-only argument" ++ (if names.length = 1 then "" else "s") ++ ": " ++
    listed names)

/-- The values of the parameters. -/
def Component.bind (c : Component) (given : Env) : Except HostFault Env :=
  match given.find? fun (name, _) => !c.parameters.any (·.name = name) with
  | some (name, _) => .error (c.unexpected name)
  | none =>
    match c.parameters.filter fun p => (lookup given p.name).isNone && p.default.isNone with
    | [] => .ok (c.parameters.map fun p =>
        (p.name, ((lookup given p.name).orElse fun _ => p.default).getD .none))
    | absent => .error (c.missing (absent.map (·.name)))

/-- Parameters with the values of their defaults, in which nothing is defined yet. -/
def parametersOf : List Template.Param → Except HostFault (List Parameter)
  | [] => .ok []
  | p :: ps => do
    let default ← match p.default with
      | some e => (evaluate [] e.tree).map some
      | none => .ok none
    let rest ← parametersOf ps
    return ⟨normalForm p.name, default⟩ :: rest

end LivePreview.Rendering
