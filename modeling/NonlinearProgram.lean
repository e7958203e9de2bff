import NonlinearProgram.Benchmark.Rosenbrock
import NonlinearProgram.Error.Report
import NonlinearProgram.Expression.Reader
import NonlinearProgram.Function.Affine
import NonlinearProgram.Function.DerivativeCheck
import NonlinearProgram.Function.Quadratic
import NonlinearProgram.Main
import NonlinearProgram.Result.Written
import NonlinearProgram.Scalar.Exact
import NonlinearProgram.Selection
import NonlinearProgram.Solver.Script
import NonlinearProgram.Proofs.Attempt
import NonlinearProgram.Proofs.Scalar.Exact
import NonlinearProgram.Proofs.Scalar.Machine
import NonlinearProgram.Proofs.Function
import NonlinearProgram.Proofs.Interval
import NonlinearProgram.Proofs.Problem.Numbering
import NonlinearProgram.Proofs.Problem.Violation
import NonlinearProgram.Proofs.Solver.Component
import NonlinearProgram.Proofs.Solver.Sided
import NonlinearProgram.Proofs.Solver.Verdict
import NonlinearProgram.Proofs.Problem.Feasible
import NonlinearProgram.Proofs.Solver.Ranges
import NonlinearProgram.Proofs.Problem.Editing
import NonlinearProgram.Proofs.Problem.Acceptance
import NonlinearProgram.Proofs.Registry
import NonlinearProgram.Proofs.Solver.Dispatch
import NonlinearProgram.Proofs.Solver.Freezing
import NonlinearProgram.Proofs.Function.Failure
import NonlinearProgram.Proofs.Solver.Failure
import NonlinearProgram.Proofs.Solver.Callbacks
import NonlinearProgram.Proofs.Dictionary
import NonlinearProgram.Proofs.Solver.Precedence
import NonlinearProgram.Proofs.Solver.Classification
import NonlinearProgram.Proofs.Solver.Repetition
import NonlinearProgram.Proofs.Matrix
import NonlinearProgram.Proofs.Solver.Weighted
import NonlinearProgram.Proofs.Solver.Sparse
import NonlinearProgram.Proofs.Registry.Laziness
import NonlinearProgram.Proofs.Problem.Invariant
import NonlinearProgram.Proofs.Benchmark.HockSchittkowski
import NonlinearProgram.Proofs.CommandLine
import NonlinearProgram.Proofs.Demo
import NonlinearProgram.Proofs.Problem.Rescaled
import NonlinearProgram.Proofs.Solver.Scales
import NonlinearProgram.Proofs.Function.Contract
import NonlinearProgram.Proofs.Scalar.Difference
import NonlinearProgram.Proofs.Scalar.Signed
import NonlinearProgram.Proofs.Solver.Rows
import NonlinearProgram.Proofs.Selection
import NonlinearProgram.Proofs.Function.Formula
import NonlinearProgram.Proofs.Function.Quadratic
import NonlinearProgram.Proofs.Function.FiniteDifference
import NonlinearProgram.Proofs.Function.Affine
import NonlinearProgram.Proofs.Benchmark.ClosedForm
import NonlinearProgram.Proofs.Function.DerivativeCheck
import NonlinearProgram.Proofs.Benchmark.Rosenbrock
import NonlinearProgram.Proofs.Solver.Options
import NonlinearProgram.Proofs.Decimal.Layout
import NonlinearProgram.Proofs.Text.Markup
import NonlinearProgram.Proofs.Display.Literal
import NonlinearProgram.Proofs.Scalar.Cancelling
import NonlinearProgram.Proofs.Function.DifferenceLift
import NonlinearProgram.Proofs.Function.Agreement
import NonlinearProgram.Proofs.Function.Consistency
import NonlinearProgram.Proofs.Scalar.Modulus
import NonlinearProgram.Proofs.Interval.Position
import NonlinearProgram.Proofs.Interval.Projection
import NonlinearProgram.Proofs.Interval.Scaling
