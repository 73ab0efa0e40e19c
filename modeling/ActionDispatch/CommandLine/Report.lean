import ActionDispatch.Application.Json
import ActionDispatch.CommandLine.Arguments
import ActionDispatch.CommandLine.Environment
import ActionDispatch.CommandLine.File
import ActionDispatch.Handler.Evaluate
import ActionDispatch.Json.Reader
import ActionDispatch.Request.Json

/-!
# Reports of the command line

What a command line comes to: the text that its command prints, the failure that ends it, or nothing
carried out. The application is read before the record, and both before the command is carried out.
-/

set_option autoImplicit false

namespace ActionDispatch.CommandLine

inductive JobError where
  | unopened (path : String) (error : FileError)
  | unparsed (path : String)
  | unread (error : FileError)
  | eval (error : EvalError)
  | unfinished
deriving DecidableEq, Repr

def JobError.message : JobError → String
  | .unopened path error =>
    (Failure.internal ("Failed to open " ++ path ++ ": " ++ error.message)).message
  | .unparsed path => (Failure.internal ("Failed to parse " ++ path)).message
  | .unread error => "IO error: " ++ error.message
  | .eval error => error.message
  | .unfinished => (Failure.internal "The evaluation does not end").message

inductive Report where
  | printed (text : String)
  | failed (error : JobError)
  | stopped (stop : Stop)
deriving DecidableEq, Repr

def usage : String :=
  "Usage: [options] <command>\n\n" ++
  "Commands:\n" ++
  "  eval <expression>        Evaluate an action expression\n" ++
  "  execute <names>          Run actions, their names apart by commas\n" ++
  "  render [--plain] <file>  Render a template file\n\n" ++
  "Options:\n" ++
  "  -a, --app <file>         Application definition\n" ++
  "  -m, --model <model>      Entity type of the current record\n" ++
  "  -c, --context <file>     Fields of the current record\n" ++
  "  -v, --verbose            Report more\n" ++
  "  -h, --help               Print this help\n" ++
  "  -V, --version            Print the version\n"

def versionText : String := "actiondesk-cli 0.1.0\n"

namespace Report

def output : Report → String
  | .printed text => text
  | .stopped .help => usage
  | .stopped .version => versionText
  | _ => ""

def exitCode : Report → UInt32
  | .printed _ => 0
  | .failed _ => 1
  | .stopped .help => 0
  | .stopped .version => 0
  | .stopped .misuse => 2

def complaint? : Report → Option String
  | .failed error => some ("Error: " ++ error.message ++ "\n")
  | _ => none

end Report

def readJson {α : Type} (files : Files) (ofNode? : Nat → Json.Node → Option α) (path : String) :
    Except JobError α :=
  match files path with
  | .error .directory => .error (.unparsed path)
  | .error .garbled => .error (.unparsed path)
  | .error error => .error (.unopened path error)
  | .ok text =>
    match (Json.node? text).bind (ofNode? Json.levelLimit) with
    | some a => .ok a
    | none => .error (.unparsed path)

def readApplication (files : Files) : Option String → Except JobError Application
  | none => .ok .empty
  | some path => readJson files Application.ofNode? path

def readRecord (files : Files) : Option String → Except JobError (Option (Table Value))
  | none => .ok none
  | some path =>
    (readJson files (fun levels => Json.Node.asTable? levels Value.ofNode?) path).map some

def conclude {α : Type} (r : Evaluation α) : Except JobError α :=
  match r.outcome with
  | .done a => .ok a
  | .failed error => .error (.eval error)
  | .unfinished => .error .unfinished

def carryOut (files : Files) (services : Services) (request : Request) :
    Command → Except JobError String
  | .eval expression => do
    let handler := Handler.ofRequest services request
    let result ← conclude (handler.evaluate Handler.allowance expression)
    return result.written.pretty ++ "\n"
  | .execute names => do
    let handler := Handler.ofRequest services { request with action := some names }
    let response ← conclude (handler.execute Handler.allowance)
    return response.written.pretty ++ "\n"
  | .render file plain => do
    let template ← (files file).mapError .unread
    let kind : Handler.TemplateKind := if plain then .plain else .script
    conclude ((Handler.ofRequest services request).render Handler.allowance kind template)

def Job.run (files : Files) (job : Job) : Except JobError String := do
  let app ← readApplication files job.app
  let data ← readRecord files job.context
  carryOut files (app.services Table.empty) ⟨none, job.model, data⟩ job.command

def applicationVariable : String := "ACTIONDESK_APP"

def Environment.application? (environment : Environment) (file : Option String) : Option String :=
  match file with
  | some text => environment.read text applicationVariable
  | none => environment applicationVariable

def report (surroundings : Option String) (files : Files) (arguments : List String) : Report :=
  match Job.parse surroundings arguments with
  | .error stop => .stopped stop
  | .ok job =>
    match job.run files with
    | .ok text => .printed text
    | .error error => .failed error

end ActionDispatch.CommandLine
