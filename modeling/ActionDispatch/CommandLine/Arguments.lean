import ActionDispatch.Text.Trim

/-!
# Arguments of the command line

A command has one operand. Options may stand on both sides of the command's name; one behind it
counts for more than one in front of it. On one side no option is given twice. An option takes its
value from its own word, behind a long name and an equals sign or behind a short name, or else from
the next word, which must not look like an option. Behind a word of two hyphens nothing is an
option.
-/

set_option autoImplicit false

namespace ActionDispatch.CommandLine

inductive Place where
  | front
  | eval
  | execute
  | render
deriving DecidableEq, Repr

inductive Stop where
  | help
  | version
  | misuse
deriving DecidableEq, Repr

inductive Command where
  | eval (expression : String)
  | execute (names : String)
  | render (file : String) (plain : Bool)
deriving DecidableEq, Repr

structure Job where
  app : Option String
  model : Option String
  context : Option String
  verbose : Bool
  command : Command
deriving DecidableEq, Repr

inductive Setting where
  | app
  | model
  | context
deriving DecidableEq, Repr

inductive Switch where
  | verbose
  | plain
  | help
  | version
deriving DecidableEq, Repr

inductive Flag where
  | setting (setting : Setting)
  | switch (switch : Switch)
deriving DecidableEq, Repr

def Flag.ofLong? (place : Place) (name : String) : Option Flag :=
  match name, place with
  | "app", _ => some (.setting .app)
  | "model", _ => some (.setting .model)
  | "context", _ => some (.setting .context)
  | "verbose", _ => some (.switch .verbose)
  | "help", _ => some (.switch .help)
  | "version", .front => some (.switch .version)
  | "plain", .render => some (.switch .plain)
  | _, _ => none

def Flag.ofShort? (place : Place) (name : Char) : Option Flag :=
  match name, place with
  | 'a', _ => some (.setting .app)
  | 'm', _ => some (.setting .model)
  | 'c', _ => some (.setting .context)
  | 'v', _ => some (.switch .verbose)
  | 'h', _ => some (.switch .help)
  | 'V', .front => some (.switch .version)
  | _, _ => none

structure Given where
  app : Option String
  model : Option String
  context : Option String
  verbose : Bool
  plain : Bool
deriving DecidableEq, Repr

namespace Given

def none : Given := ⟨.none, .none, .none, false, false⟩

def set (given : Given) (setting : Setting) (value : String) : Except Stop Given :=
  match setting with
  | .app =>
    if given.app.isSome || value.isEmpty then .error .misuse
    else .ok { given with app := some value }
  | .model =>
    if given.model.isSome then .error .misuse else .ok { given with model := some value }
  | .context =>
    if given.context.isSome || value.isEmpty then .error .misuse
    else .ok { given with context := some value }

def turnOn (given : Given) (switch : Switch) : Except Stop Given :=
  match switch with
  | .verbose => if given.verbose then .error .misuse else .ok { given with verbose := true }
  | .plain => if given.plain then .error .misuse else .ok { given with plain := true }
  | .help => .error .help
  | .version => .error .version

end Given

inductive Word where
  | separator
  | long (text : List Char)
  | short (text : List Char)
  | plain
deriving DecidableEq, Repr

def Word.ofArgument (argument : String) : Word :=
  match argument.toList with
  | ['-', '-'] => .separator
  | '-' :: '-' :: text => .long text
  | ['-'] => .plain
  | '-' :: text => .short text
  | _ => .plain

def readLong (place : Place) (given : Given) (text : List Char) :
    Except Stop (Given × Option Setting) := do
  let flag := Flag.ofLong? place (String.ofList (text.takeWhile (· ≠ '=')))
  match flag, text.dropWhile (· ≠ '=') with
  | some (.switch switch), [] => return (← given.turnOn switch, none)
  | some (.setting setting), [] => return (given, some setting)
  | some (.setting setting), _ :: value =>
    return (← given.set setting (String.ofList value), none)
  | _, _ => .error .misuse

def readShort (place : Place) (given : Given) : List Char → Except Stop (Given × Option Setting)
  | [] => .ok (given, none)
  | name :: rest => do
    match Flag.ofShort? place name, rest with
    | some (.switch switch), rest => readShort place (← given.turnOn switch) rest
    | some (.setting setting), [] => return (given, some setting)
    | some (.setting setting), '=' :: value =>
      return (← given.set setting (String.ofList value), none)
    | some (.setting setting), value => return (← given.set setting (String.ofList value), none)
    | none, _ => .error .misuse

def readOptions (place : Place) (given : Given) :
    List String → Except Stop (Given × List String)
  | [] => .ok (given, [])
  | argument :: rest => do
    let read (option : Except Stop (Given × Option Setting)) := do
      match ← option, rest with
      | (given, none), rest => readOptions place given rest
      | (given, some setting), value :: rest =>
        if Word.ofArgument value = .plain then
          readOptions place (← given.set setting value) rest
        else .error .misuse
      | (_, some _), [] => .error .misuse
    match Word.ofArgument argument with
    | .long text => read (readLong place given text)
    | .short text => read (readShort place given text)
    | .separator => return (given, argument :: rest)
    | .plain => return (given, argument :: rest)

def readOperand (place : Place) (operand : String) : Except Stop String :=
  if place = .render ∧ operand.isEmpty then .error .misuse else .ok operand

def readCommand (place : Place) (arguments : List String) : Except Stop (Given × String) := do
  match ← readOptions place .none arguments with
  | (given, ["--", operand]) => return (given, ← readOperand place operand)
  | (_, "--" :: _) => .error .misuse
  | (given, operand :: rest) =>
    let operand ← readOperand place operand
    match ← readOptions place given rest with
    | (given, []) => return (given, operand)
    | (given, ["--"]) => return (given, operand)
    | _ => .error .misuse
  | (_, []) => .error .misuse

def Command.of (place : Place) (given : Given) (operand : String) : Except Stop Command :=
  match place with
  | .eval => .ok (.eval operand)
  | .execute => .ok (.execute operand)
  | .render => .ok (.render operand given.plain)
  | .front => .error .misuse

def Place.ofName? : String → Option Place
  | "eval" => some .eval
  | "execute" => some .execute
  | "render" => some .render
  | _ => none

def Stop.ofHelp : List String → Stop
  | [] => .help
  | [name] => if name = "help" ∨ (Place.ofName? name).isSome then .help else .misuse
  | _ => .misuse

/-- The application file: as given behind the command's name, else in front of it, else by the
surroundings. The surroundings may not name an empty file on a side that they have to fill in. -/
def application (surroundings : Option String) (front behind : Given) :
    Except Stop (Option String) :=
  if surroundings = some "" ∧ (front.app.isNone ∨ behind.app.isNone) then .error .misuse
  else .ok ((behind.app.or front.app).or surroundings)

def Job.parse (surroundings : Option String) (arguments : List String) : Except Stop Job := do
  match ← readOptions .front .none arguments with
  | (_, "help" :: names) => .error (.ofHelp names)
  | (front, name :: rest) =>
    match Place.ofName? name with
    | none => .error .misuse
    | some place =>
      let (behind, operand) ← readCommand place rest
      let command ← Command.of place behind operand
      return {
        app := ← application surroundings front behind
        model := behind.model.or front.model
        context := behind.context.or front.context
        verbose := front.verbose || behind.verbose
        command := command }
  | (_, []) => .error .misuse

def Job.files (job : Job) : List String :=
  job.app.toList ++ job.context.toList ++ match job.command with
    | .render file _ => [file]
    | _ => []

end ActionDispatch.CommandLine
