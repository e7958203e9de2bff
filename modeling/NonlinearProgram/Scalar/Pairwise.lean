import NonlinearProgram.Scalar

/-!
# Sums in pairs

A long sum keeps more digits when parts of about the same size are added up first. A list is cut in
halves until the parts are short; a short part is written in rows of eight, whose columns are added
up and then joined in pairs. A list that does not fill a row is added from the left.
-/

namespace NonlinearProgram.Scalar

variable {α : Type} [Scalar α]

def rowLength : Nat := 8

def partLimit : Nat := 128

def joinPairs : List α → List α
  | a :: b :: rest => (a + b) :: joinPairs rest
  | xs => xs

/-- Some totals with a number of rows added column by column, and what follows the rows. -/
def addRows : Nat → List α → List α → List α × List α
  | 0, totals, xs => (totals, xs)
  | count + 1, totals, xs =>
    addRows count (List.zipWith (· + ·) totals (xs.take rowLength)) (xs.drop rowLength)

/-- The sum of a list that fills a row: the columns of its rows joined in pairs, and what is left
over added from the left. -/
def rowSum (xs : List α) : α :=
  let (totals, rest) :=
    addRows (xs.length / rowLength - 1) (xs.take rowLength) (xs.drop rowLength)
  rest.foldl (· + ·) (sum (joinPairs (joinPairs (joinPairs totals))))

/-- Where a list of some length is cut: at the last full row of its first half. -/
def cut (length : Nat) : Nat := length / 2 - length / 2 % rowLength

theorem cut_lt {length : Nat} (long : partLimit < length) : cut length < length := by
  unfold partLimit at long
  unfold cut
  omega

theorem cut_pos {length : Nat} (long : partLimit < length) : 0 < cut length := by
  unfold partLimit at long
  unfold cut rowLength
  omega

def pairwiseSum (xs : List α) : α :=
  if xs.length < rowLength then sum xs
  else if _ : partLimit < xs.length then
    pairwiseSum (xs.take (cut xs.length)) + pairwiseSum (xs.drop (cut xs.length))
  else rowSum xs
termination_by xs.length
decreasing_by
  · rename_i long
    have := cut_lt long
    simp only [List.length_take]
    omega
  · rename_i long
    have := cut_lt long
    have := cut_pos long
    simp only [List.length_drop]
    omega

end NonlinearProgram.Scalar
