import ActionDispatch.CommandLine.Report

/-!
# The program

Reads the files that a command line names, and prints its report.
-/

set_option autoImplicit false

namespace ActionDispatch.CommandLine

def nameTooLong : UInt32 := -36

def FileError.ofSystem : IO.Error → FileError
  | .noFileOrDirectory .. => .missing
  | .permissionDenied .. => .denied
  | .inappropriateType (some _) _ _ => .misplaced
  | .inappropriateType none _ _ => .directory
  | .invalidArgument _ code _ => if code = nameTooLong then .tooLong else .garbled
  | _ => .garbled

def readFile (path : String) : IO (Except FileError String) := do
  try
    return .ok (← IO.FS.readFile path)
  catch error =>
    return .error (.ofSystem error)

def readFiles (paths : List String) : IO Files := do
  let texts ← paths.mapM fun path => do return (path, ← readFile path)
  return fun path => (texts.lookup path).getD (.error .missing)

def processEnvironment : IO Environment := do
  let text := match ← readFile "/proc/self/environ" with
    | .ok text => text
    | .error _ => ""
  let given := (text.splitOn "\x00").map fun entry =>
    (String.ofList (entry.toList.takeWhile (· ≠ '=')),
      String.ofList ((entry.toList.dropWhile (· ≠ '=')).drop 1))
  return fun name => if name = "" then none else given.lookup name

def environmentFile : List String → IO (Option String)
  | [] => return none
  | path :: rest => do
    match ← readFile path with
    | .ok text => return some text
    | .error .missing => environmentFile rest
    | .error .directory => environmentFile rest
    | .error _ => return none

end ActionDispatch.CommandLine

open ActionDispatch.CommandLine

def main (arguments : List String) : IO UInt32 := do
  let file ← environmentFile (Environment.files (← IO.currentDir).toString)
  let surroundings := (← processEnvironment).application? file
  let paths := match Job.parse surroundings arguments with
    | .ok job => job.files
    | .error _ => []
  let report := report surroundings (← readFiles paths) arguments
  IO.print report.output
  if let some complaint := report.complaint? then
    IO.eprint complaint
  return report.exitCode
