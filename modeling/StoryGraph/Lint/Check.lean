import StoryGraph.Graph.Compile
import StoryGraph.Graph.Reachable
import StoryGraph.Lint.Issue

namespace StoryGraph.Draft

variable (settings : Settings) (draft : Draft)

def versionIssues : List Issue :=
  match draft.version with
  | some version => if version = currentVersion then [] else [.versionMismatch version]
  | none => []

def positionsOf (id : String) : List Nat :=
  draft.scenes.zipIdx.filterMap fun (scene, position) ↦
    if scene.name? = some id then some position else none

def idIssues (id : String) : List Issue :=
  let positions := draft.positionsOf id
  (if 1 < positions.length then [.duplicateId id positions] else []) ++
    (if Label.isReserved id then [.reservedId id] else []) ++
    (if settings.limits.maxIdLength < id.utf8ByteSize then
      [.idTooLong id settings.limits.maxIdLength] else [])

def sortedIds : List String := (Occurrence.distinct draft.ids).mergeSort fun a b ↦ a ≤ b

def startIssues : List Issue :=
  match filled draft.startScene with
  | some target => if draft.ids.contains target then [] else [.unknownStart target]
  | none => []

/-- The word of a reference that names nothing in this draft. -/
def missing? (reference : Option String) : Option String :=
  (filled reference).filter fun word ↦
    match Label.reserved? word with
    | some .ending => !draft.hasEnding
    | some _ => false
    | none => !draft.ids.contains word

def Scene.longest (scene : Scene) : Nat :=
  ((scene.dialogue.filterMap Line.text ++ scene.choices.filterMap Choice.label).map
    String.utf8ByteSize).foldl max 0

def sceneIssues (id : String) (scene : Scene) : List Issue :=
  let lines := scene.dialogue.length
  let choices := scene.choices.length
  let longest := scene.longest
  let limits := settings.limits
  ((draft.missing? scene.next).map (Issue.danglingNext id)).toList ++
    scene.choices.zipIdx.filterMap (fun (choice, index) ↦
      (draft.missing? choice.next).map (Issue.danglingChoice id index)) ++
    (if scene.dialogue.isEmpty && scene.choices.isEmpty then [.emptyScene id] else []) ++
    (if limits.maxLinesPerScene < lines then
      [.tooManyLines id lines limits.maxLinesPerScene] else []) ++
    (if limits.maxChoicesPerScene < choices then
      [.tooManyChoices id choices limits.maxChoicesPerScene] else []) ++
    (if limits.maxTextLength < longest then [.textTooLong id longest limits.maxTextLength] else [])

/-- The findings on the scenes that are used, in the order of the draft. A scene is used if its id
does not occur after it. -/
def usedSceneIssues : List (String × Scene) → List Issue
  | [] => []
  | (id, scene) :: rest =>
    (if rest.any (fun later ↦ later.1 == id) then [] else draft.sceneIssues settings id scene) ++
      usedSceneIssues rest

def reachabilityIssues : List Issue :=
  (draft.compile settings).unreachable.filterMap fun label ↦
    label.sceneId?.map .unreachableScene

def lint : Report where
  issues := draft.versionIssues ++ draft.unnamedPositions.map .sceneWithoutId ++
    draft.sortedIds.flatMap (draft.idIssues settings) ++ draft.startIssues ++
    draft.usedSceneIssues settings draft.named ++ draft.reachabilityIssues settings

end StoryGraph.Draft
