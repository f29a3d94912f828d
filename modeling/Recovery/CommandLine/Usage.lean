import Recovery.CommandLine.Shape
/-!
# Usage

The commands of a program and their parameters, a line for each.
-/
set_option autoImplicit false

namespace Recovery.CommandLine

def Parameter.usage (p : Parameter) : String :=
  let letter :=
    match p.letter with
    | some c => "-" ++ String.ofList [c] ++ ", "
    | none => ""
  let value :=
    match p.arity, p.form with
    | .switch, _ => ""
    | _, .oneOf words => " <" ++ "|".intercalate words ++ ">"
    | .many, _ => " <value,...>"
    | .single, _ => " <value>"
  let necessity := if p.required then ", required" else ""
  "  " ++ letter ++ "--" ++ p.name ++ value ++ " [" ++ p.environment ++ necessity ++ "]"

def Program.usage (program : Program) : String :=
  let block := fun (title : String) (parameters : List Parameter) =>
    title :: parameters.map Parameter.usage
  "\n".intercalate
    (block "parameters of every command:" program.shared ++
      program.commands.flatMap fun (name, parameters) => block (name ++ ":") parameters)

end Recovery.CommandLine
