import BarrelModule.CommandLine.Grammar

namespace BarrelModule.CommandLine

inductive UsageError where
  | unknownArgument
  | invalidValue
  | argumentConflict
  | valueValidation
  | tooManyValues
  | invalidSubcommand
  | missingSubcommand
  | missingRequiredArgument
  | nothingGiven
  deriving DecidableEq, Repr

inductive Stop where
  | help (page : Command)
  | version
  | usage (e : UsageError)
  deriving DecidableEq, Repr

inductive Pending where
  | setting (s : Setting) (value : Option String)
  | shell (name : String)
  deriving DecidableEq, Repr

structure Draft where
  values : List (Setting × String)
  switches : List Switch
  verbosity : Nat
  shell : Option Shell
  pending : Option Pending
  operandsOnly : Bool
  deriving DecidableEq, Repr

namespace Draft

def empty : Draft := ⟨[], [], 0, none, none, false⟩

def value? (d : Draft) (s : Setting) : Option String := d.values.lookup s

def checkValue (s : Setting) (value : String) : Except Stop Unit :=
  match s with
  | .directory => if value = "" then .error (.usage .invalidValue) else .ok ()
  | .pattern => if (Pattern.parse? value).isNone then .error (.usage .valueValidation) else .ok ()
  | _ => .ok ()

def assign (d : Draft) (s : Setting) (value : String) : Except Stop Draft :=
  if (d.value? s).isSome then .error (.usage .argumentConflict)
  else match checkValue s value with
    | .error stop => .error stop
    | .ok () => .ok { d with values := (s, value) :: d.values }

def settle (d : Draft) : Except Stop Draft :=
  let rest := { d with pending := none }
  match d.pending with
  | none => .ok d
  | some (.setting _ none) => .error (.usage .invalidValue)
  | some (.setting s (some value)) => rest.assign s value
  | some (.shell name) =>
    match Shell.ofName? name with
    | some shell => .ok { rest with shell := some shell }
    | none => .error (.usage .invalidValue)

def greatestVerbosity : Nat := 255

def standalone (d : Draft) (page : Command) (m : Meaning) : Except Stop Draft :=
  match d.settle with
  | .error stop => .error stop
  | .ok d =>
    match m with
    | .switch s =>
      if d.switches.contains s then .error (.usage .argumentConflict)
      else .ok { d with switches := s :: d.switches }
    | .verbose => .ok { d with verbosity := min (d.verbosity + 1) greatestVerbosity }
    | .help => .error (.help page)
    | .version => .error .version
    | .setting _ => .ok d

def attached (d : Draft) (s : Setting) (value : String) : Except Stop Draft :=
  match d.settle with
  | .error stop => .error stop
  | .ok d => d.assign s value

def awaiting (d : Draft) (s : Setting) : Except Stop Draft :=
  match d.settle with
  | .error stop => .error stop
  | .ok d => .ok { d with pending := some (.setting s none) }

def readShorts (c : Command) (d : Draft) : List Char → Except Stop Draft
  | [] => .ok d
  | letter :: letters =>
    match c.short? letter with
    | none => .error (.usage .unknownArgument)
    | some (.setting s) =>
      match letters with
      | [] => d.awaiting s
      | '=' :: value => d.attached s (String.ofList value)
      | value => d.attached s (String.ofList value)
    | some m =>
      match d.standalone c m with
      | .error stop => .error stop
      | .ok d => readShorts c d letters

def readLong (c : Command) (d : Draft) (name : List Char) : Except Stop Draft :=
  let key := name.takeWhile (· ≠ '=')
  let value := name.drop key.length
  match c.long? (String.ofList key), value with
  | none, _ => .error (.usage .unknownArgument)
  | some (.setting s), [] => d.awaiting s
  | some (.setting s), _ :: value => d.attached s (String.ofList value)
  | some m, [] => d.standalone c m
  | some _, _ :: _ => .error (.usage .tooManyValues)

def readOperand (c : Command) (d : Draft) (arg : String) : Except Stop Draft :=
  match c, d.shell, d.pending with
  | .completions, none, none => .ok { d with pending := some (.shell arg) }
  | _, _, _ => .error (.usage .unknownArgument)

def read (c : Command) (d : Draft) (arg : String) : Except Stop Draft :=
  if d.operandsOnly then d.readOperand c arg
  else match arg.toList with
    | ['-', '-'] => .ok { d with operandsOnly := true }
    | '-' :: '-' :: name => d.readLong c name
    | '-' :: letter :: letters => d.readShorts c (letter :: letters)
    | _ =>
      match d.pending with
      | some (.setting s none) => .ok { d with pending := some (.setting s (some arg)) }
      | _ => d.readOperand c arg

def readAll (c : Command) (d : Draft) : List String → Except Stop Draft
  | [] => d.settle
  | arg :: args =>
    match d.read c arg with
    | .error stop => .error stop
    | .ok d => readAll c d args

end Draft

inductive Task where
  | build (o : BuildOptions)
  | completions (shell : Shell)

structure Invocation where
  verbosity : Nat
  task : Task

namespace Draft

def text (d : Draft) (s : Setting) : String :=
  ((d.value? s).or s.initial?).getD ""

/-- The options of a build. An empty key asks for an array, and an empty output for the text itself. -/
def buildOptions (d : Draft) : BuildOptions where
  scan :=
    { directory := Path.ofString (d.text .directory)
      filter := ⟨d.text .opening, d.text .ending, (d.value? .pattern).bind Pattern.parse?⟩
      recursive := d.switches.contains .recursive }
  output := Path.ofString (d.text .outputPath)
  key := if d.text .definitionKey = "" then none else some (d.text .definitionKey)
  denyDuplicates := d.switches.contains .denyDuplicates

def task (c : Command) (d : Draft) : Except Stop Task :=
  match c, d.shell with
  | .completions, some shell => .ok (.completions shell)
  | .completions, none => .error (.usage .missingRequiredArgument)
  | _, _ => .ok (.build d.buildOptions)

/-- A verbosity given behind the subcommand counts alone. -/
def invocation (outer : Draft) (c : Command) (args : List String) : Except Stop Invocation :=
  match readAll c empty args with
  | .error stop => .error stop
  | .ok d =>
    match d.task c with
    | .error stop => .error stop
    | .ok task => .ok ⟨if d.verbosity = 0 then outer.verbosity else d.verbosity, task⟩

end Draft

def helpPage : List String → Stop
  | [] => .help .top
  | [name] =>
    match Command.ofName? name with
    | some c => .help c
    | none => .usage .invalidSubcommand
  | _ :: _ :: _ => .usage .invalidSubcommand

def isOption (arg : String) : Bool :=
  match arg.toList with
  | '-' :: _ :: _ => true
  | _ => false

def parseAfter (d : Draft) : List String → Except Stop Invocation
  | [] =>
    if d.verbosity = 0 then .error (.usage .nothingGiven) else .error (.usage .missingSubcommand)
  | arg :: args =>
    if d.operandsOnly then
      .error (.usage (if (Command.ofName? arg).isSome then .unknownArgument else .invalidSubcommand))
    else match Command.ofName? arg with
      | some .help => .error (helpPage args)
      | some c => d.invocation c args
      | none =>
        if isOption arg then
          match d.read .top arg with
          | .error stop => .error stop
          | .ok d => parseAfter d args
        else .error (.usage .invalidSubcommand)

def parse (args : List String) : Except Stop Invocation := parseAfter .empty args

end BarrelModule.CommandLine
