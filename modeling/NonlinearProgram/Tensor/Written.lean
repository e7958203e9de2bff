import NonlinearProgram.Decimal.Layout
import NonlinearProgram.Tensor

/-!
# Written arrays

An array is written with its points one under the other: every number to at most eight digits
after the point, fewer where fewer read back, all in one notation. Powers of ten are written where
the numbers are large, small, or far apart. Lines are filled up to a width, and of a large array
only the corners are shown.
-/

namespace NonlinearProgram

open Scalar

/-- A number as it stands in an array: its sign with the digits before the point, the digits after
it, and the power of ten behind them. -/
structure ArrayDigits where
  whole : List Char
  fraction : List Char
  power : Int

namespace ArrayDigits

variable {α : Type} [Scalar α]

def placeLimit : Nat := 8

def readsBack (x : α) (d : Decimal) : Bool :=
  equal x (OfScientific.ofScientific d.digits (decide (d.exponent < 0)) d.exponent.natAbs)

/-- The first of the decimals with 0, 1, … places that reads back, or else the one with all places
that there may be. -/
def choose (x : α) (withPlaces : Nat → Decimal) : Decimal :=
  (((List.range placeLimit).map withPlaces).find? (readsBack x)).getD (withPlaces placeLimit)

def stripped (digits : List Char) : List Char := (digits.reverse.dropWhile (· == '0')).reverse

def signed (negative : Bool) (digits : List Char) : List Char :=
  if negative then '-' :: digits else digits

/-- A fraction without a power of ten; `x` is the number that it is without its sign. -/
def positional (x : α) (negative : Bool) (numerator denominator : Nat) : ArrayDigits :=
  let d := choose x fun places => Decimal.nearest numerator denominator (-places)
  let places := d.exponent.natAbs
  let digits := Nat.toDigits 10 d.digits
  let digits := Layout.zeros (places + 1 - digits.length) ++ digits
  let count := digits.length - places
  ⟨signed negative (digits.take count), stripped (digits.drop count), 0⟩

def exponential (x : α) (negative : Bool) (numerator denominator : Nat) : ArrayDigits :=
  if numerator = 0 then ⟨signed negative ['0'], [], 0⟩
  else
    let d := choose x fun places => Decimal.significant numerator denominator (places + 1)
    let digits := Nat.toDigits 10 d.digits
    ⟨signed negative (digits.take 1), stripped (digits.drop 1), d.exponent + digits.length - 1⟩

def ofScalar? (powers : Bool) (x : α) : Option ArrayDigits :=
  match reading x with
  | .finite negative numerator denominator =>
    some ((if powers then exponential else positional) (modulus x) negative numerator denominator)
  | _ => none

/-- How many digits the power of ten has, of which there are at least two. -/
def powerWidth (d : ArrayDigits) : Nat := max 2 (Nat.toDigits 10 d.power.natAbs).length

end ArrayDigits

/-- How all numbers of an array are written: with powers of ten or without, and the widths of their
parts. -/
structure ArrayLayout where
  powers : Bool
  whole : Nat
  fraction : Nat
  power : Nat

namespace ArrayLayout

variable {α : Type} [Scalar α]

def needsPowers (xs : List α) : Bool :=
  match (xs.map modulus).filter (less 0.0) with
  | [] => false
  | first :: rest =>
    let largest := rest.foldl larger first
    let least := rest.foldl smaller first
    atMost 1e8 largest || less least 1e-4 || less 1000.0 (largest / least)

def tail (layout : ArrayLayout) : Nat :=
  layout.fraction + 1 + if layout.powers then layout.power + 2 else 0

def ofEntries (xs : List α) : ArrayLayout :=
  let finite := xs.filter isFinite
  let powers := needsPowers finite
  let digits := finite.filterMap (ArrayDigits.ofScalar? powers)
  let widest := fun (f : ArrayDigits → Nat) => (digits.map f).foldl max 0
  let layout : ArrayLayout := ⟨powers, widest (·.whole.length), widest (·.fraction.length),
    widest (·.powerWidth)⟩
  let names := (xs.filter fun x => !isFinite x).map fun x => (shortest x).length
  if names.isEmpty then layout
  else { layout with whole := max layout.whole ((names.foldl max 3) - layout.tail) }

def blanks (count : Nat) : List Char := List.replicate count ' '

def writePower (layout : ArrayLayout) (power : Int) : List Char :=
  let digits := Nat.toDigits 10 power.natAbs
  'e' :: (if power < 0 then '-' else '+') :: Layout.zeros (layout.power - digits.length) ++ digits

def write (layout : ArrayLayout) (x : α) : List Char :=
  match ArrayDigits.ofScalar? layout.powers x with
  | none =>
    let name := (shortest x).toList
    blanks (layout.whole + layout.tail - name.length) ++ name
  | some d =>
    let missing := layout.fraction - d.fraction.length
    blanks (layout.whole - d.whole.length) ++ d.whole ++ '.' :: d.fraction
      ++ if layout.powers then Layout.zeros missing ++ layout.writePower d.power
        else blanks missing

end ArrayLayout

namespace Tensor

def lineWidth : Nat := 75

def wholeLimit : Nat := 1000

/-- How many items of a row are shown at each end of it, where not all are. -/
def edge : Nat := 3

/-- The items of a row that are shown; nothing stands for those that are left out. -/
def shownItems {β : Type} (abridged : Bool) (items : List β) : List (Option β) :=
  if abridged && decide (2 * edge < items.length) then
    (items.take edge).map some ++ none :: (items.drop (items.length - edge)).map some
  else items.map some

variable {α : Type}

def shownEntries (abridged : Bool) : List Nat → List α → List α
  | [], xs => xs
  | count :: shape, xs =>
    ((shownItems abridged (rowsOf (capacity shape) count xs)).filterMap id).flatMap
      (shownEntries abridged shape)

/-- Words with commas between them, in lines that go on from a first one. A line is closed where the
next word is too much for it. -/
def fillLines (indent width : Nat) : List Char → List (List Char) → List (List Char)
  | line, [] => [line]
  | line, word :: rest =>
    let separated := if rest.isEmpty then word else word ++ [',', ' ']
    if decide (indent < line.length) && decide (width < line.length + word.length) then
      line.dropLast :: fillLines indent width (ArrayLayout.blanks indent ++ separated) rest
    else fillLines indent width (line ++ separated) rest

def joinLines (lines : List (List Char)) : List Char := ['\n'].intercalate lines

def ellipsis : List Char := ['.', '.', '.']

def writeRows (cell : α → List Char) (abridged : Bool) :
    Nat → Nat → List Nat → List α → List Char
  | _, _, [], xs => xs.flatMap cell
  | indent, width, [_], xs =>
    let words := (shownItems abridged xs).map fun item => (item.map cell).getD ellipsis
    '[' :: (joinLines (fillLines indent (width - 1) (ArrayLayout.blanks indent) words)).drop indent
      ++ [']']
  | indent, width, count :: shape, xs =>
    let rows := (shownItems abridged (rowsOf (capacity shape) count xs)).map fun row =>
      (row.map (writeRows cell abridged (indent + 1) (width - 1) shape)).getD ellipsis
    let separator := ',' :: List.replicate shape.length '\n' ++ ArrayLayout.blanks indent
    '[' :: separator.intercalate rows ++ [']']

/-- What is told of an array beside its entries: its shape, where the entries do not show it, and
the type of entries, where there are none. -/
def remarks (t : Tensor α) (abridged : Bool) : List String :=
  (if abridged || (t.entries.isEmpty && t.shape ≠ [0]) then ["shape=" ++ writeShape t.shape]
    else [])
    ++ if t.entries.isEmpty then ["dtype=float64"] else []

variable [Scalar α]

def signature (t : Tensor α) : String :=
  let opening := "array("
  let abridged := decide (wholeLimit < t.size)
  let layout := ArrayLayout.ofEntries (shownEntries abridged t.shape t.entries)
  let body :=
    if t.entries.isEmpty then "[]"
    else String.ofList (writeRows layout.write abridged (opening.length + 1) (lineWidth - 1)
      t.shape t.entries)
  match t.remarks abridged with
  | [] => opening ++ body ++ ")"
  | remarks =>
    let entries := opening ++ body ++ ","
    let rest := ", ".intercalate remarks ++ ")"
    let last := (entries.toList.reverse.takeWhile (· ≠ '\n')).length
    let gap :=
      if lineWidth < last + rest.length + 1 then "\n" ++ "".pushn ' ' opening.length else " "
    entries ++ gap ++ rest

end Tensor

end NonlinearProgram
