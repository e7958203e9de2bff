import NonlinearProgram.Scalar
import NonlinearProgram.Text.Blank
import NonlinearProgram.Text.Digit

/-!
# Reading decimals

A number in a text is a sign, digits with a point among them, and an exponent, or one of the names
of infinity and of what is not a number. A whole number is a sign and digits. Blanks around a number
do not count, letter case does not count, and an underscore may stand between two digits.
-/

namespace NonlinearProgram.Decimal

def valueOf (digits : List Nat) : Nat := digits.foldl (fun n digit => n * 10 + digit) 0

/-- The digits at the start of a text, single underscores between them left out, and what
follows. -/
def takeDigits : List Char → List Nat × List Char
  | '_' :: c :: rest =>
    match Text.digit? c with
    | some digit =>
      let more := takeDigits rest
      (digit :: more.1, more.2)
    | none => ([], '_' :: c :: rest)
  | c :: rest =>
    match Text.digit? c with
    | some digit =>
      let more := takeDigits rest
      (digit :: more.1, more.2)
    | none => ([], c :: rest)
  | [] => ([], [])

/-- The digits at the start of a text, the first of them not after an underscore. -/
def leadingDigits : List Char → List Nat × List Char
  | '_' :: rest => ([], '_' :: rest)
  | text => takeDigits text

def takeSign : List Char → Bool × List Char
  | '-' :: rest => (true, rest)
  | '+' :: rest => (false, rest)
  | text => (false, text)

/-- The sign and the digits at the start of a text, and what follows. -/
def signedDigits (text : List Char) : Bool × List Nat × List Char :=
  let (negative, rest) := takeSign text
  (negative, leadingDigits rest)

def wholeOf (negative : Bool) (digits : List Nat) : Int :=
  if negative then -(valueOf digits : Int) else valueOf digits

/-- The whole number that a text without blanks around it is, when it is one. -/
def whole? (text : List Char) : Option Int :=
  let (negative, digits, rest) := signedDigits text
  if digits.isEmpty || !rest.isEmpty then none else some (wholeOf negative digits)

/-- The power of ten at the end of a number; zero when there is none. -/
def power? : List Char → Option Int
  | [] => some 0
  | c :: rest => if c = 'e' then whole? rest else none

variable {α : Type} [Scalar α]

def magnitude? (text : List Char) : Option α :=
  if text = "inf".toList || text = "infinity".toList then some Scalar.infinity
  else if text = "nan".toList then some Scalar.notANumber
  else
    let (whole, rest) := leadingDigits text
    let (fraction, rest) := match rest with
      | '.' :: rest => leadingDigits rest
      | rest => ([], rest)
    if whole.isEmpty && fraction.isEmpty then none
    else (power? rest).map fun power =>
      let exponent : Int := power - fraction.length
      OfScientific.ofScientific (valueOf (whole ++ fraction)) (decide (exponent < 0))
        exponent.natAbs

def read? (text : List Char) : Option α :=
  let (negative, rest) := takeSign ((Text.trimmed text).map Char.toLower)
  (magnitude? rest).map fun x => if negative then -x else x

/-- The sign and the digits at the start of a text, blanks around it left out, and what follows. -/
def readDigits (text : List Char) : Bool × List Nat × List Char := signedDigits (Text.trimmed text)

end NonlinearProgram.Decimal
