import NonlinearProgram.Benchmark.HockSchittkowskiProblem
import NonlinearProgram.CommandLine
import NonlinearProgram.Display
import NonlinearProgram.Registry
import NonlinearProgram.Solver.Run

/-!
# The demonstration

Solves Hock-Schittkowski problem 71 with a backend chosen on the command line, and shows the problem
and the result. The exit status is 0 when a solution is found and 2 otherwise.
-/

namespace NonlinearProgram.Demo

variable {α : Type} [Scalar α]

structure Outcome (α : Type) where
  exitCode : Nat
  shown : List Shown := []
  /-- The level from which records are wanted, once the command line has been read. -/
  threshold : Option Level := none
  contact : Option (Contact α) := none
  /-- What ended the demonstration early, where it was not expected. -/
  failure : Option (Error α) := none
  registry : Registry α

def exitCode (r : Result α) : Nat := if r.isSuccess then 0 else 2

def stop (threshold : Level) (registry : Registry α) (error : Error α)
    (contact : Option (Contact α) := none) : Outcome α where
  exitCode := 1
  threshold := some threshold
  contact := contact
  failure := some error
  registry := registry

def refuse (threshold : Level) (registry : Registry α) (imports : Imports α)
    (error : Error α) : Logged (Outcome α) := do
  match ← registry.available imports with
  | (registry, .error unexpected) => return stop threshold registry unexpected
  | (registry, .ok available) =>
    return {
      exitCode := 2
      shown := [
        .markup ("[red]" ++ error.message ++ "[/red]"),
        .markup ("Available backends: " ++ ", ".intercalate available)]
      threshold := some threshold
      registry := registry }

def solve (threshold : Level) (registry : Registry α) (around : Surroundings α)
    (p : Problem α) (solver : Solver α) : Logged (Outcome α) := do
  match Display.problem p with
  | .error error => return stop threshold registry error
  | .ok before =>
    let (contact, run) := solver.run around
    let (_, result) ← run
    match Display.result result with
    | .error error => return stop threshold registry error contact
    | .ok after =>
      return {
        exitCode := exitCode result
        shown := before ++ after
        threshold := some threshold
        contact := contact
        registry := registry }

def start (arguments : CommandLine.Arguments) (registry : Registry α) (around : Surroundings α) :
    Logged (Outcome α) := do
  let threshold := if arguments.verbose then Level.info else .warning
  match ← HockSchittkowski.problem.run with
  | .error error => return stop threshold registry error
  | .ok p =>
    let (registry, created) ←
      registry.create (.text arguments.backend) around.imports p []
        (arguments.priority.map .text)
    match created with
    | .ok solver => solve threshold registry around p solver
    | .error error =>
      if error.kind.isA .problem then refuse threshold registry around.imports error
      else return stop threshold registry error

def run (words : List String) (registry : Registry α) (around : Surroundings α) :
    Logged (Outcome α) :=
  match CommandLine.parse words with
  | .error stop => return { exitCode := stop.exitCode, registry := registry }
  | .ok arguments => start arguments registry around

end NonlinearProgram.Demo
