import StoryGraph.Draft.Basic
import StoryGraph.Event
import StoryGraph.Script.Basic
import StoryGraph.Settings.Basic

namespace StoryGraph.Draft

variable (settings : Settings)

def orElse (text : Option String) (standing : String) : String := (filled text).getD standing

def Line.normalize (line : Line) : StoryGraph.Line where
  speaker := filled line.speaker
  text := line.text.getD ""

def Choice.normalize (index : Nat) (choice : Choice) : Script.Choice where
  caption := orElse choice.label (settings.captionFor index)
  next := filled choice.next

def Scene.normalize (id : String) (scene : Scene) (fallback : Option String) : Script.Scene where
  id
  background := scene.background
  accent := scene.accent
  lines := scene.dialogue.map Line.normalize
  choices := scene.choices.mapIdx (Choice.normalize settings)
  next := filled scene.next
  fallback

def Cover.missing : Cover := ⟨none, none, none, none, none, none⟩

def Cover.normalize (cover : Cover) : CoverCard where
  image := (filled cover.image).or (filled cover.background)
  title := orElse cover.title settings.cover.title
  subtitle := orElse cover.subtitle settings.cover.subtitle
  description := orElse cover.description settings.cover.description
  cta := orElse cover.cta settings.cover.cta

def Ending.normalize (ending : Ending) : EndingCard where
  image := filled ending.image
  title := orElse ending.title settings.ending.title
  message := orElse ending.message settings.ending.message
  cta := orElse ending.cta settings.ending.cta

variable (draft : Draft)

/-- The scenes of the script. A repeated id keeps its first place and takes the content of its last
occurrence, together with the id that follows that occurrence. -/
def mergedScenes : List Script.Scene :=
  let named := draft.named
  (Occurrence.distinct (named.map Prod.fst)).filterMap fun id ↦
    (Occurrence.last? id named).map fun (scene, follower) ↦ scene.normalize settings id follower

/-- The declared start scene if there is such a scene, else the first scene, else the ending. -/
def startLabel : Option Label :=
  match draft.startScene.filter draft.ids.contains with
  | some id => some (.scene id)
  | none =>
    match draft.ids.head? with
    | some id => some (.scene id)
    | none => if draft.hasEnding then some .ending else none

def normalize : Script where
  cover := (draft.cover.getD Cover.missing).normalize settings
  scenes := draft.mergedScenes settings
  ending := draft.ending.map (Ending.normalize settings)
  start := draft.startLabel
  continueCaption := settings.continueCaption

def versionEvents : List Event :=
  match draft.version with
  | some version => if version = currentVersion then [] else [.versionDiffers version]
  | none => []

def unnamedPositions : List Nat :=
  draft.scenes.zipIdx.filterMap fun (scene, position) ↦
    if scene.name?.isNone then some position else none

/-- An event for each occurrence of an id after its first, with the occurrence before it. Positions
count the named scenes only. -/
def repetitionEvents : List Event :=
  draft.ids.zipIdx.filterMap fun (id, position) ↦
    (Occurrence.lastIndex? id (draft.ids.take position)).map fun previous ↦
      .repeatedId id previous position

def reservedEvents : List Event :=
  ((Occurrence.distinct draft.ids).filter Label.isReserved).map .reservedId

def startEvents : List Event :=
  match draft.startScene with
  | some declared => if draft.ids.contains declared then [] else [.unknownStart declared]
  | none => []

def normalizeEvents : List Event :=
  .normalizing draft.scenes.length :: (draft.versionEvents ++
    draft.unnamedPositions.map .sceneWithoutId ++ draft.repetitionEvents ++ draft.reservedEvents ++
    draft.startEvents)

end StoryGraph.Draft
