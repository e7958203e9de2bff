import NonlinearProgram.Demo
import NonlinearProgram.Scalar.Machine

/-!
# The demonstration as a program

No solving library is linked here, so every backend that needs one is reported as missing.
-/

namespace NonlinearProgram

def Table.lines (t : Table) : List String :=
  t.title :: " | ".intercalate (t.columns.map (·.header)) :: t.rows.map (" | ".intercalate ·)

def Shown.lines : Shown → List String
  | markup text => [text]
  | table t => t.lines
  | panel p => [p.title, p.body]

def Level.weight : Level → Nat
  | debug => 10
  | info => 20
  | warning => 30
  | error => 40

def bareSurroundings : Surroundings Float where
  imports := .only []
  minimizer := .fail (.fault (.noModule "scipy"))
  interior := .fail (.fault (.noModule "cyipopt"))
  procedure _ := throw (.fault (.noCallback "procedure"))

end NonlinearProgram

open NonlinearProgram

def main (words : List String) : IO UInt32 := do
  let run := Demo.run words {} bareSurroundings
  let threshold := (run.value.threshold.getD .error).weight
  for record in run.records do
    if threshold ≤ record.level.weight then IO.eprintln record.message
  for shown in run.value.shown do
    for line in shown.lines do IO.println line
  for error in run.value.failure do IO.eprintln error.message
  return run.value.exitCode.toUInt32
