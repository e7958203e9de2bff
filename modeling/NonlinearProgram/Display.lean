import NonlinearProgram.Problem.Basic
import NonlinearProgram.Result
import NonlinearProgram.Text.Markup

/-!
# Tables and panels

What is shown of a problem and of a result, before it is drawn: tables with titled columns, and
panels whose body is console markup. Texts from outside are escaped, so that they are shown as
they are.
-/

namespace NonlinearProgram

open Scalar

structure Column where
  header : String
  justify : String := "left"
  style : String := ""

structure Table where
  title : String
  columns : List Column
  rows : List (List String)

structure Panel where
  title : String
  borderStyle : String
  body : String

inductive Shown where
  | markup (text : String)
  | table (t : Table)
  | panel (p : Panel)

namespace Display

variable {α : Type} [Scalar α]

def variableTable (p : Problem α) : Table where
  title := s!"minimize {p.objective.label}"
  columns := [
    { header := "Variable", style := "cyan" },
    { header := "Bounds", style := "magenta" },
    { header := "Start", justify := "right" }]
  rows := (p.argumentNames.zip p.argumentBounds).zipIdx.map fun ((name, bounds), i) =>
    let start := (p.startingPoint.bind (·[i]?)).map (general 6)
    [name, bounds.text, start.getD "-"]

def constraintRow (position : Nat) (c : Constraint α) : Except (Error α) (List String) :=
  match c.name with
  | .text name =>
    .ok [toString position, name, c.function.tier.label, c.boundsText, c.scalesText]
  | name => .error (.fault (.notShown name.typeName))

def constraintTable (p : Problem α) : Except (Error α) Table := do
  return {
    title := s!"Constraints ({p.constraints.length})"
    columns := [
      { header := "#", justify := "right" },
      { header := "Function", style := "cyan" },
      { header := "Tier" },
      { header := "Bounds", style := "magenta" },
      { header := "Scales", justify := "right" }]
    rows := ← p.constraints.zipIdx.mapM fun (c, i) => constraintRow i c }

def problem (p : Problem α) : Except (Error α) (List Shown) := do
  let first := Shown.table (variableTable p)
  if p.constraints.isEmpty then return [first]
  return [first, .table (← constraintTable p)]

def bracketed (digits : Nat) (t : Tensor α) : Except (Error α) String :=
  match t.shape with
  | [_] => .ok ("[" ++ ", ".intercalate (t.entries.map (general digits)) ++ "]")
  | _ => .error (.fault .nestedEntry)

def numberLine (label : String) (digits : Nat) : Option (Tensor α) →
    Except (Error α) (List String)
  | none => .ok []
  | some t => if t.entries.isEmpty then .ok [] else do
    return [label ++ (← bracketed digits t)]

def solutionLines (s : Solution α) : Except (Error α) (List String) := do
  let point ← match s.point with
    | some point => bracketed 8 point
    | none => .error (.fault (.notIterable (Datum.typeName (.nothing : Datum α))))
  let values ← numberLine "g(x) = " 8 s.constraintValues
  let multipliers ← numberLine "lambda = " 6 s.multipliers
  return ["Objective: " ++ general 10 s.value, "x = " ++ point] ++ values ++ multipliers
    ++ [s!"Iterations: {s.iterations.write}, evaluations: {s.functionEvals.write} "
      ++ s!"(gradients: {s.gradientEvals.write})"]

def solutionBody (s : Solution α) : Except (Error α) String := do
  return "\n".intercalate (← solutionLines s)

def warningLine (warning : String) : String :=
  "[yellow]! " ++ Text.escapeMarkup warning ++ "[/yellow]"

/-- A text as markup that shows it literally; only texts are shown. -/
def literal (d : Datum α) : Except (Error α) String := do
  return Text.escapeMarkup (← d.asText)

def resultPanel : Result α → Except (Error α) Panel
  | .solved s => do return ⟨"Solved", "green", ← solutionBody s⟩
  | .solvedWithWarnings s warnings => do
    let body ← solutionBody s
    return ⟨"Solved with warnings", "yellow",
      body ++ "\n" ++ "\n".intercalate (warnings.map warningLine)⟩
  | .noSolution reason => do
    let body ← literal reason
    return ⟨"No solution", "red", if body.isEmpty then "No solution found" else body⟩
  | .failed message => do
    return ⟨"Solver error", "red", "[bold red]" ++ (← literal message) ++ "[/bold red]"⟩

def result (r : Result α) : Except (Error α) (List Shown) := do
  return [.panel (← resultPanel r)]

end Display

end NonlinearProgram
