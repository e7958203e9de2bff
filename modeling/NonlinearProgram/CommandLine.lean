import NonlinearProgram.Preset

/-!
# The command line of the demonstration

One optional argument names a backend, `--priority` takes one of the priorities, and `-v` or
`--verbose` asks for progress. Long options may be cut short where that is unambiguous and may take
their argument after an equals sign, short flags may be joined, and a double dash ends the options.
-/

namespace NonlinearProgram.CommandLine

/-- What a command line asks for. -/
structure Arguments where
  backend : String := "scipy-slsqp"
  priority : Option String := none
  verbose : Bool := false
  deriving DecidableEq, Repr

/-- Why a command line is not run. -/
inductive Stop where
  | help
  | misuse
  deriving DecidableEq, Repr

def Stop.exitCode : Stop → Nat
  | help => 0
  | misuse => 2

inductive Flag where
  | help
  | priority
  | verbose
  deriving DecidableEq, Repr

/-- A word of a command line by itself: a value, the end of the options, an option with the argument
joined to it, or something that looks like an option and is none or several. -/
inductive Token where
  | value (text : String)
  | terminator
  | option (flag : Flag) (isShort : Bool) (joined : Option String)
  | unknown
  | ambiguous
  deriving DecidableEq, Repr

def longFlags : List (String × Flag) :=
  [("--help", .help), ("--priority", .priority), ("--verbose", .verbose)]

def shortFlag? : Char → Option Flag
  | 'h' => some .help
  | 'v' => some .verbose
  | _ => none

def splitEquals (text : List Char) : List Char × Option String :=
  match text.dropWhile (· != '=') with
  | [] => (text, none)
  | _ :: rest => (text.takeWhile (· != '='), some (String.ofList rest))

def dropLineBreak (text : List Char) : List Char :=
  match text.reverse with
  | '\n' :: rest => rest.reverse
  | _ => text

def isNegativeNumber (text : List Char) : Bool :=
  match dropLineBreak text with
  | '-' :: rest =>
    let whole := rest.takeWhile Text.isDigit
    match rest.dropWhile Text.isDigit with
    | [] => !whole.isEmpty
    | '.' :: fraction => !fraction.isEmpty && fraction.all Text.isDigit
    | _ => false
  | _ => false

def longToken (text : List Char) : Token :=
  let (name, joined) := splitEquals text
  match longFlags.find? fun flag => flag.1.toList == name with
  | some (_, flag) => .option flag false joined
  | none =>
    match longFlags.filter fun flag => name.isPrefixOf flag.1.toList with
    | [(_, flag)] => .option flag false joined
    | [] => if text.contains ' ' then .value (String.ofList text) else .unknown
    | _ => .ambiguous

def joinedTo : List Char → Option String
  | [] => none
  | '=' :: rest => some (String.ofList rest)
  | rest => some (String.ofList rest)

def shortToken (letter : Char) (rest : List Char) : Token :=
  match shortFlag? letter with
  | some flag => .option flag true (joinedTo rest)
  | none =>
    let text := '-' :: letter :: rest
    if isNegativeNumber text || text.contains ' ' then .value (String.ofList text) else .unknown

def token (word : String) : Token :=
  match word.toList with
  | '-' :: '-' :: [] => .terminator
  | '-' :: '-' :: rest => longToken ('-' :: '-' :: rest)
  | '-' :: letter :: rest => shortToken letter rest
  | _ => .value word

/-- The tokens of a command line. Behind the end of the options every word is a value. -/
def tokens : List String → List Token
  | [] => []
  | word :: rest =>
    match token word with
    | .terminator => .terminator :: rest.map .value
    | other => other :: tokens rest

/-- What has been read so far: whether the backend may still come, and whether there was a word too
many. -/
structure Progress where
  arguments : Arguments := {}
  named : Bool := false
  excess : Bool := false

def Progress.choose (p : Progress) (text : String) : Except Stop Progress :=
  match Priority.ofName? text with
  | some _ => .ok { p with arguments := { p.arguments with priority := some text } }
  | none => .error .misuse

def Progress.raise (p : Progress) : Flag → Except Stop Progress
  | .help => .error .help
  | .verbose => .ok { p with arguments := { p.arguments with verbose := true } }
  | .priority => .error .misuse

/-- Takes a short flag and those joined to it, at least one. A joined letter that is no flag is a
mistake, and then none of them is taken. -/
def Progress.raiseAll (p : Progress) (first : Flag) (joined : String) : Except Stop Progress :=
  match joined.toList.mapM shortFlag? with
  | none | some [] => .error .misuse
  | some flags => (first :: flags).foldlM Progress.raise p

def Progress.name (p : Progress) (backend : String) : Progress :=
  { p with arguments := { p.arguments with backend := backend }, named := true }

def read (p : Progress) : List Token → Except Stop Progress
  | [] => .ok p
  | .ambiguous :: _ => .error .misuse
  | .unknown :: rest => read { p with excess := true } rest
  | .option .priority _ none :: .value text :: rest => do read (← p.choose text) rest
  | .option .priority _ (some text) :: rest => do read (← p.choose text) rest
  | .option flag _ none :: rest => do read (← p.raise flag) rest
  | .option flag true (some joined) :: rest => do read (← p.raiseAll flag joined) rest
  | .option _ false (some _) :: _ => .error .misuse
  | .terminator :: .value text :: rest =>
    read (if p.named then { p with excess := true } else p.name text) rest
  | .terminator :: rest => read (if p.named then { p with excess := true } else p) rest
  | .value text :: .terminator :: rest =>
    read (if p.named then { p with excess := true } else p.name text) rest
  | .value text :: rest => read (if p.named then { p with excess := true } else p.name text) rest

/-- What a command line asks for, or why it is not run. -/
def parse (words : List String) : Except Stop Arguments := do
  let tokens := tokens words
  if tokens.contains .ambiguous then throw .misuse
  let p ← read {} tokens
  if p.excess then throw .misuse
  return p.arguments

end NonlinearProgram.CommandLine
