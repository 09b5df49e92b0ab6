import StoryGraph.Json.Decode
import StoryGraph.Lint.Issue

namespace StoryGraph

open Json (Members)

namespace Issue

def toJson : Issue → Json
  | versionMismatch found => tagged "schema_version_mismatch" [("found", .string found)]
  | sceneWithoutId position => tagged "scene_without_id" [("position", .nat position)]
  | duplicateId id positions =>
    tagged "duplicate_scene_id"
      [("id", .string id), ("positions", .array (positions.map Json.nat))]
  | reservedId id => tagged "reserved_id_shadowed" [("id", .string id)]
  | unknownStart target => tagged "unknown_start_scene" [("target", .string target)]
  | danglingNext scene target =>
    tagged "dangling_next" [("scene", .string scene), ("target", .string target)]
  | danglingChoice scene choice target =>
    tagged "dangling_choice_target"
      [("scene", .string scene), ("choice", .nat choice), ("target", .string target)]
  | emptyScene scene => tagged "empty_scene" [("scene", .string scene)]
  | unreachableScene scene => tagged "unreachable_scene" [("scene", .string scene)]
  | tooManyLines scene count limit =>
    tagged "too_many_lines" [("scene", .string scene), ("count", .nat count), ("limit", .nat limit)]
  | tooManyChoices scene count limit =>
    tagged "too_many_choices"
      [("scene", .string scene), ("count", .nat count), ("limit", .nat limit)]
  | textTooLong scene length limit =>
    tagged "text_too_long"
      [("scene", .string scene), ("length", .nat length), ("limit", .nat limit)]
  | idTooLong id limit => tagged "id_too_long" [("id", .string id), ("limit", .nat limit)]
where
  tagged (name : String) (fields : Members) : Json := .object (("issue", .string name) :: fields)

def ofMembers? (members : Members) : Option Issue := do
  let text (name : String) : Option String := members.field name Json.string?
  let count (name : String) : Option Nat := members.field name Json.nat?
  match ← text "issue" with
  | "schema_version_mismatch" => return versionMismatch (← text "found")
  | "scene_without_id" => return sceneWithoutId (← count "position")
  | "duplicate_scene_id" =>
    return duplicateId (← text "id") (← members.field "positions" (Json.list? Json.nat?))
  | "reserved_id_shadowed" => return reservedId (← text "id")
  | "unknown_start_scene" => return unknownStart (← text "target")
  | "dangling_next" => return danglingNext (← text "scene") (← text "target")
  | "dangling_choice_target" =>
    return danglingChoice (← text "scene") (← count "choice") (← text "target")
  | "empty_scene" => return emptyScene (← text "scene")
  | "unreachable_scene" => return unreachableScene (← text "scene")
  | "too_many_lines" => return tooManyLines (← text "scene") (← count "count") (← count "limit")
  | "too_many_choices" =>
    return tooManyChoices (← text "scene") (← count "count") (← count "limit")
  | "text_too_long" => return textTooLong (← text "scene") (← count "length") (← count "limit")
  | "id_too_long" => return idTooLong (← text "id") (← count "limit")
  | _ => none

def ofJson? (value : Json) : Option Issue := value.members?.bind ofMembers?

end Issue

namespace Report

def toJson (report : Report) : Json := .object [("issues", .array (report.issues.map Issue.toJson))]

def form : Json.Form := .record ["issues"]

def ofMembers? (members : Members) : Option Report := do
  return ⟨← members.field "issues" (Json.list? Issue.ofJson?)⟩

def ofJson? (value : Json) : Option Report := value.members?.bind ofMembers?

end Report

end StoryGraph
