import StoryGraph.Json.Decode
import StoryGraph.Settings.Basic

namespace StoryGraph

open Json (Members)

namespace Limits

def toJson (limits : Limits) : Json :=
  .object [("max_script_bytes", .nat limits.maxScriptBytes), ("max_scenes", .nat limits.maxScenes),
    ("max_lines_per_scene", .nat limits.maxLinesPerScene),
    ("max_choices_per_scene", .nat limits.maxChoicesPerScene),
    ("max_text_length", .nat limits.maxTextLength), ("max_id_length", .nat limits.maxIdLength)]

def form : Json.Form :=
  .record ["max_script_bytes", "max_scenes", "max_lines_per_scene", "max_choices_per_scene",
    "max_text_length", "max_id_length"]

def ofMembers? (members : Members) : Option Limits :=
  let standing : Limits := {}
  do
    return ⟨← members.fieldD "max_script_bytes" Json.nat? standing.maxScriptBytes,
      ← members.fieldD "max_scenes" Json.nat? standing.maxScenes,
      ← members.fieldD "max_lines_per_scene" Json.nat? standing.maxLinesPerScene,
      ← members.fieldD "max_choices_per_scene" Json.nat? standing.maxChoicesPerScene,
      ← members.fieldD "max_text_length" Json.nat? standing.maxTextLength,
      ← members.fieldD "max_id_length" Json.nat? standing.maxIdLength⟩

def ofJson? (value : Json) : Option Limits := value.members?.bind ofMembers?

end Limits

namespace CoverTexts

def toJson (texts : CoverTexts) : Json :=
  .object [("title", .string texts.title), ("subtitle", .string texts.subtitle),
    ("description", .string texts.description), ("cta", .string texts.cta)]

def form : Json.Form := .record ["title", "subtitle", "description", "cta"]

def ofMembers? (members : Members) : Option CoverTexts :=
  let standing : CoverTexts := {}
  do
    return ⟨← members.fieldD "title" Json.string? standing.title,
      ← members.fieldD "subtitle" Json.string? standing.subtitle,
      ← members.fieldD "description" Json.string? standing.description,
      ← members.fieldD "cta" Json.string? standing.cta⟩

def ofJson? (value : Json) : Option CoverTexts := value.members?.bind ofMembers?

end CoverTexts

namespace EndingTexts

def toJson (texts : EndingTexts) : Json :=
  .object [("title", .string texts.title), ("message", .string texts.message),
    ("cta", .string texts.cta)]

def form : Json.Form := .record ["title", "message", "cta"]

def ofMembers? (members : Members) : Option EndingTexts :=
  let standing : EndingTexts := {}
  do
    return ⟨← members.fieldD "title" Json.string? standing.title,
      ← members.fieldD "message" Json.string? standing.message,
      ← members.fieldD "cta" Json.string? standing.cta⟩

def ofJson? (value : Json) : Option EndingTexts := value.members?.bind ofMembers?

end EndingTexts

namespace Settings

def toJson (settings : Settings) : Json :=
  .object [("cover", settings.cover.toJson), ("ending", settings.ending.toJson),
    ("continue_caption", .string settings.continueCaption),
    ("choice_caption", .string settings.choiceCaption), ("limits", settings.limits.toJson)]

def form : Json.Form :=
  .object [("cover", CoverTexts.form), ("ending", EndingTexts.form), ("continue_caption", .whole),
    ("choice_caption", .whole), ("limits", Limits.form)]

def ofMembers? (members : Members) : Option Settings :=
  let standing : Settings := {}
  do
    return ⟨← members.fieldD "cover" CoverTexts.ofJson? standing.cover,
      ← members.fieldD "ending" EndingTexts.ofJson? standing.ending,
      ← members.fieldD "continue_caption" Json.string? standing.continueCaption,
      ← members.fieldD "choice_caption" Json.string? standing.choiceCaption,
      ← members.fieldD "limits" Limits.ofJson? standing.limits⟩

def ofJson? (value : Json) : Option Settings := value.members?.bind ofMembers?

end Settings

end StoryGraph
