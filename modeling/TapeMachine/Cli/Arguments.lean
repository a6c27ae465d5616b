import TapeMachine.Cli.Command

/-!
# Reading the command line

Arguments are read from left to right on two levels: options, then the name of a command, then the
options and the values of that command. The options for all commands may stand on both levels, each
once on a level; of two values for one option the inner one counts.

The first thing that ends the reading decides: a call for help or for the version, or a mistake.
Where an option waits for its value when the command begins, its value is looked at after the
command was read.
-/

namespace TapeMachine.Cli

/-- Why no command came out of the arguments. -/
inductive Refusal where
  /-- The arguments are wrong. -/
  | usage
  /-- They ask for help. -/
  | help
  /-- They ask for the version. -/
  | version
deriving DecidableEq, Repr

namespace Arguments

/-! ## Single arguments -/

/-- A decimal number below `2^64`, with an optional plus sign and any number of leading zeros. -/
def unsigned? (text : String) : Option Nat :=
  let digits :=
    match text.toList with
    | '+' :: rest => rest
    | cs => cs
  if digits.isEmpty || !digits.all Char.isDigit then none
  else
    let n := digits.foldl (fun n c => n * 10 + (c.toNat - '0'.toNat)) 0
    if n < Nat.pow 2 64 then some n else none

/-- The forms of an argument before the end of the options. -/
inductive Form where
  /-- Two dashes: only values follow. -/
  | endOfOptions
  /-- An option by its name, with the value behind an equals sign. -/
  | long (name : String) (value : Option String)
  /-- Options by their letters. -/
  | short (letters : List Char)
  | value (text : String)

/-- The form of an argument. A single dash is a value. -/
def form (argument : String) : Form :=
  match argument.toList with
  | ['-', '-'] => .endOfOptions
  | '-' :: '-' :: rest =>
    let name := rest.takeWhile (· != '=')
    match rest.dropWhile (· != '=') with
    | [] => .long (String.ofList name) none
    | _ :: value => .long (String.ofList name) (some (String.ofList value))
  | '-' :: c :: rest => .short (c :: rest)
  | _ => .value argument

/-- What an option without a value turns on. -/
inductive Switch where
  | verbose
  | resetAfter
  | json
  | noColor
  | flipping
deriving DecidableEq

/-- The options that take a value. -/
inductive Setting where
  | config
  | head
deriving DecidableEq

/-- What an option is. -/
inductive Known where
  | switch (s : Switch)
  | setting (s : Setting)
  | help
  | version

/-- What a level allows. -/
structure Shape where
  /-- The options of this command alone. -/
  flipping : Bool := false
  head : Bool := false
  version : Bool := false
  /-- How many values it takes; `none` for any number. -/
  values : Option Nat := some 0
  /-- Its values are numbers. -/
  numeric : Bool := false

/-- The option of a name. -/
def Shape.long? (shape : Shape) (name : String) : Option Known :=
  if name == "config" then some (.setting .config)
  else if name == "verbose" then some (.switch .verbose)
  else if name == "reset-after" then some (.switch .resetAfter)
  else if name == "json" then some (.switch .json)
  else if name == "no-color" then some (.switch .noColor)
  else if name == "help" then some .help
  else if name == "version" && shape.version then some .version
  else if name == "flipping" && shape.flipping then some (.switch .flipping)
  else if name == "head" && shape.head then some (.setting .head)
  else none

/-- The option of a letter. -/
def Shape.short? (shape : Shape) (letter : Char) : Option Known :=
  if letter == 'v' then some (.switch .verbose)
  else if letter == 'h' then some .help
  else if letter == 'V' && shape.version then some .version
  else none

/-! ## One level -/

/-- What a level has brought so far. -/
structure Level where
  switches : List Switch := []
  config : Option String := none
  head : Option Nat := none
  values : List String := []

namespace Level

/-- Turns something on, once. -/
def turnOn (l : Level) (s : Switch) : Except Refusal Level :=
  if l.switches.contains s then .error .usage else .ok { l with switches := s :: l.switches }

/-- Gives an option its value, once. A path is not empty, a position is a number. -/
def assign (l : Level) (value : String) : Setting → Except Refusal Level
  | .config =>
    if l.config.isSome || value.isEmpty then .error .usage
    else .ok { l with config := some value }
  | .head =>
    match l.head, unsigned? value with
    | none, some n => .ok { l with head := some n }
    | _, _ => .error .usage

/-- The command has a place for one more value. -/
def hasPlace (l : Level) (shape : Shape) : Bool :=
  match shape.values with
  | none => true
  | some n => l.values.length < n

/-- Takes a value, if the command has a place for it. -/
def take (l : Level) (shape : Shape) (value : String) : Except Refusal Level :=
  if l.hasPlace shape && (!shape.numeric || (unsigned? value).isSome) then
    .ok { l with values := l.values ++ [value] }
  else .error .usage

/-- Takes options given by their letters. -/
def letters (l : Level) (shape : Shape) : List Char → Except Refusal Level
  | [] => .ok l
  | c :: rest =>
    match shape.short? c with
    | some (.switch s) => do (← l.turnOn s).letters shape rest
    | some .help => .error .help
    | some .version => .error .version
    | some (.setting _) | none => .error .usage

/-- Takes all arguments as values. -/
def takeAll (l : Level) (shape : Shape) : List String → Except Refusal Level
  | [] => .ok l
  | value :: rest => do (← l.take shape value).takeAll shape rest

end Level

/-- What an option by its name asks for. -/
inductive Step where
  /-- It is done. -/
  | next (level : Level)
  /-- It waits for its value. -/
  | awaiting (s : Setting)

/-- Takes an option by its name. -/
def long (l : Level) (shape : Shape) (name : String) (value : Option String) :
    Except Refusal Step :=
  match shape.long? name, value with
  | some (.switch s), none => return .next (← l.turnOn s)
  | some (.setting s), some v => return .next (← l.assign v s)
  | some (.setting s), none => .ok (.awaiting s)
  | some .help, none => .error .help
  | some .version, none => .error .version
  | _, _ => .error .usage

/-- Reads the arguments of a command. An option that waits for its value does not take another
option for it. -/
def command (shape : Shape) : List String → Level → Except Refusal Level
  | [], l => .ok l
  | argument :: rest, l =>
    match form argument with
    | .endOfOptions => l.takeAll shape rest
    | .value text => do command shape rest (← l.take shape text)
    | .short cs => do command shape rest (← l.letters shape cs)
    | .long name value =>
      match long l shape name value with
      | .error e => .error e
      | .ok (.next l) => command shape rest l
      | .ok (.awaiting s) =>
        -- the next argument is the value, unless it is an option itself
        match rest with
        | [] => .error .usage
        | v :: rest =>
          match form v with
          | .value text => do command shape rest (← l.assign text s)
          | _ => .error .usage

/-! ## Commands -/

/-- The names of the commands. -/
inductive Name where
  | increment
  | beaver3
  | beaver4
  | accept
  | sequence
  | handwritten
  | countdown
deriving DecidableEq

def name? (text : String) : Option Name :=
  if text == "increment" then some .increment
  else if text == "beaver3" then some .beaver3
  else if text == "beaver4" then some .beaver4
  else if text == "accept" then some .accept
  else if text == "sequence" then some .sequence
  else if text == "handwritten" then some .handwritten
  else if text == "countdown" then some .countdown
  else none

def Name.shape : Name → Shape
  | increment => { flipping := true, values := some 1 }
  | beaver3 | beaver4 => {}
  | accept => { head := true, values := some 2 }
  | sequence => { values := some 3 }
  | handwritten => { values := none }
  | countdown => { values := some 1, numeric := true }

/-- The command of a name with what its level has brought; without its values there is none. -/
def Name.command (name : Name) (l : Level) : Except Refusal Command :=
  match name, l.values with
  | increment, [] => .ok (.increment "001" (l.switches.contains .flipping))
  | increment, [digits] => .ok (.increment digits (l.switches.contains .flipping))
  | beaver3, [] => .ok .beaver3
  | beaver4, [] => .ok .beaver4
  | accept, [input, target] => .ok (.accept input target (l.head.getD 0))
  | sequence, [input, first, second] => .ok (.sequence input first second)
  | handwritten, input :: inputs => .ok (.handwritten (input :: inputs))
  | countdown, [start] =>
    match unsigned? start with
    | some n => .ok (.countdown (UInt64.ofNat n))
    | none => .error .usage
  | _, _ => .error .usage

/-- Help on a command, or on all of them. -/
def help : List String → Refusal
  | [] => .help
  | [topic] => if (name? topic).isSome || topic == "help" then .help else .usage
  | _ => .usage

/-! ## Both levels -/

/-- The level before the command. -/
def outerShape : Shape := { version := true }

/-- Reads a command and its arguments, after the outer level. -/
def inner (name : Name) (rest : List String) : Except Refusal (Command × Level) := do
  let l ← command name.shape rest {}
  return (← name.command l, l)

/-- The request that two levels make. -/
def request (c : Command) (outer inner : Level) : Request :=
  let on := fun s => outer.switches.contains s || inner.switches.contains s
  { command := c
    config := inner.config <|> outer.config
    verbose := on .verbose
    resetAfter := on .resetAfter
    json := on .json
    noColor := on .noColor }

/-- Looks at a value that an option has been given. -/
def settle (owed : Option (Setting × String)) (l : Level) : Except Refusal Level :=
  match owed with
  | none => .ok l
  | some (s, text) => l.assign text s

/-- Reads the arguments on the outer level and goes on with the command. `owed` is the value of the
option just before, which is looked at only now: before the next option, or after the command. -/
def outer : List String → Option (Setting × String) → Level → Except Refusal Request
  | [], _, _ => .error .usage
  | argument :: rest, owed, l =>
    match form argument with
    | .endOfOptions => .error .usage
    | .value text =>
      match name? text with
      | some name => do
        -- what the command objects to comes before what is owed
        let (c, i) ← inner name rest
        let l ← settle owed l
        return request c l i
      | none => .error (if text == "help" then help rest else .usage)
    | .short cs => do
      let l ← settle owed l
      outer rest none (← l.letters outerShape cs)
    | .long name value =>
      match settle owed l with
      | .error e => .error e
      | .ok l =>
        match long l outerShape name value with
        | .error e => .error e
        | .ok (.next l) => outer rest none l
        | .ok (.awaiting s) =>
          match rest with
          | [] => .error .usage
          | v :: rest =>
            match form v with
            | .value text => outer rest (some (s, text)) l
            | _ => .error .usage

end Arguments

/-- Reads the arguments of the program. -/
def Request.ofArguments (arguments : List String) : Except Refusal Request :=
  Arguments.outer arguments none {}

end TapeMachine.Cli
