import StoryGraph.Draft.Basic

namespace StoryGraph

inductive Severity where
  | info
  | warning
  deriving DecidableEq, Repr, Inhabited

def Severity.name : Severity → String
  | info => "info"
  | warning => "warning"

inductive Issue where
  | versionMismatch (found : String)
  | sceneWithoutId (position : Nat)
  | duplicateId (id : String) (positions : List Nat)
  | reservedId (id : String)
  | unknownStart (target : String)
  | danglingNext (scene target : String)
  | danglingChoice (scene : String) (choice : Nat) (target : String)
  | emptyScene (scene : String)
  | unreachableScene (scene : String)
  | tooManyLines (scene : String) (count limit : Nat)
  | tooManyChoices (scene : String) (count limit : Nat)
  | textTooLong (scene : String) (length limit : Nat)
  | idTooLong (id : String) (limit : Nat)
  deriving DecidableEq, Repr, Inhabited

namespace Issue

def severity : Issue → Severity
  | versionMismatch _ | emptyScene _ => .info
  | _ => .warning

def bracketed (numbers : List Nat) : String := "[" ++ ", ".intercalate (numbers.map toString) ++ "]"

def message : Issue → String
  | versionMismatch found => s!"schema version '{found}' differs from '{Draft.currentVersion}'"
  | sceneWithoutId position => s!"scene #{position} has no id and is skipped"
  | duplicateId id positions =>
    s!"scene id '{id}' appears at {bracketed positions}; the last one is used"
  | reservedId id =>
    s!"scene id '{id}' is a reserved label; `next: \"{id}\"` reaches the reserved label"
  | unknownStart target => s!"start scene '{target}' does not exist"
  | danglingNext scene target => s!"scene '{scene}' continues to missing '{target}'"
  | danglingChoice scene choice target =>
    s!"choice {choice} of scene '{scene}' targets missing '{target}'"
  | emptyScene scene => s!"scene '{scene}' has no lines or choices"
  | unreachableScene scene => s!"scene '{scene}' cannot be reached from the cover"
  | tooManyLines scene count limit => s!"scene '{scene}' has {count} lines (limit {limit})"
  | tooManyChoices scene count limit => s!"scene '{scene}' has {count} choices (limit {limit})"
  | textTooLong scene length limit => s!"scene '{scene}' has a {length}-byte text (limit {limit})"
  | idTooLong id limit => s!"scene id '{id}' is longer than {limit} bytes"

end Issue

structure Report where
  issues : List Issue
  deriving DecidableEq, Repr, Inhabited

namespace Report

variable (report : Report)

def isClean : Bool := report.issues.isEmpty

def warnings : List Issue := report.issues.filter fun issue ↦ issue.severity = .warning

def hasWarnings : Bool := report.issues.any fun issue ↦ issue.severity = .warning

end Report

end StoryGraph
