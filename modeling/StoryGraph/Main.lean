import StoryGraph.Command.Run

namespace StoryGraph.Command

def fileError : IO.Error → FileError
  | .noFileOrDirectory .. => .notFound
  | .alreadyExists .. => .fileExists
  | .inappropriateType _ code details | .invalidArgument _ code details =>
    match code with
    | 20 => .notADirectory
    | 21 => .isADirectory
    | 36 => .nameTooLong
    | _ => .other details
  | error => .other (toString error)

def attempt {α : Type} (action : IO α) : IO (Except FileError α) := do
  try return .ok (← action)
  catch error => return .error (fileError error)

def saveFile (path contents : String) : IO (Option Failure) := do
  let above := "/".intercalate (pathNames path).dropLast
  let above := if path.startsWith "/" then "/" ++ above else above
  let made ← if above.isEmpty then pure (.ok ()) else attempt (IO.FS.createDirAll above)
  match made with
  | .error error => return some ⟨error.message, []⟩
  | .ok () =>
    match ← attempt (IO.FS.writeFile path contents) with
    | .error error => return some ⟨s!"write {path}", [error.message]⟩
    | .ok () => return none

def fail (failure : Failure) : IO UInt32 := do
  IO.eprint failure.text
  return 1

/-- Carries out what the arguments ask for; the exit code is 2 where they ask for nothing. -/
def perform (args : List String) : IO UInt32 := do
  match Request.ofArguments args with
  | .error .usage => IO.eprint usage; return 2
  | .error .help => IO.print usage; return 0
  | .error .version => IO.print versionText; return 0
  | .ok request =>
    let sources ← request.sources.mapM fun (path : String) ↦ do
      return (path, (← attempt (IO.FS.readBinFile path)).bind decodeText)
    let read (path : String) : Except FileError String :=
      ((sources.find? fun source ↦ source.1 = path).map Prod.snd).getD (.error .notFound)
    match run read request with
    | .printed text => IO.print text; return 0
    | .failed text failure => IO.print text; fail failure
    | .written path contents text =>
      match ← saveFile path contents with
      | some failure => fail failure
      | none => IO.print text; return 0

end StoryGraph.Command

def main (args : List String) : IO UInt32 := StoryGraph.Command.perform args
