import StoryGraph.Settings.Basic
import StoryGraph.Text.Quoted
import StoryGraph.Toml.Excerpt
import StoryGraph.Toml.Reader

namespace StoryGraph

open Toml (Placed)

namespace Settings

inductive Expected where
  | text
  | count
  | coverTexts
  | endingTexts
  | limits
  deriving DecidableEq, Repr, Inhabited

def Expected.message : Expected → String
  | text => "a string"
  | count => "usize"
  | coverTexts => "struct CoverDefaults"
  | endingTexts => "struct EndingDefaults"
  | limits => "struct ResourceLimiter"

inductive Mismatch where
  | wrongType (found : Toml.Value) (expected : Expected)
  | negativeCount (n : Int)
  deriving Repr, Inhabited

def describe : Toml.Value → String
  | .string s => s!"string {Text.quoted s}"
  | .integer n => s!"integer `{n}`"
  | .float x => s!"floating point `{x.text}`"
  | .boolean b => s!"boolean `{b}`"
  | .array _ | .tables _ => "sequence"
  | .moment | .table .. => "map"

def Mismatch.message : Mismatch → String
  | wrongType found expected => s!"invalid type: {describe found}, expected {expected.message}"
  | negativeCount n => s!"invalid value: integer `{n}`, expected usize"

abbrev Reading (α : Type) := Except (Placed Mismatch) α

def text? (value : Placed Toml.Value) : Reading String :=
  match value.value with
  | .string s => .ok s
  | found => .error ⟨value.region, .wrongType found .text⟩

def count? (value : Placed Toml.Value) : Reading Nat :=
  match value.value with
  | .integer n => if n < 0 then .error ⟨value.region, .negativeCount n⟩ else .ok n.toNat
  | found => .error ⟨value.region, .wrongType found .count⟩

variable {α : Type}

/-- Sets the values of a section one after the other. A list gives the values in the order of the
keys, and a moment gives none. -/
def fields? (keys : List String) (set : α → String → Placed Toml.Value → Reading α) (standing : α)
    (expected : Expected) (value : Placed Toml.Value) : Reading α :=
  match value.value with
  | .table _ entries => entries.foldlM (fun a (key, value) ↦ set a key value) standing
  | .array items => (keys.zip items).foldlM (fun a (key, value) ↦ set a key value) standing
  | .tables elements =>
    (keys.zip elements).foldlM
      (fun a (key, table) ↦ set a key ⟨table.region, .table .header table.value⟩) standing
  | .moment => .ok standing
  | found => .error ⟨value.region, .wrongType found expected⟩

end Settings

open Settings (text? count? fields? Reading)

namespace CoverTexts

def set (texts : CoverTexts) (key : String) (value : Placed Toml.Value) : Reading CoverTexts := do
  match key with
  | "title" => return { texts with title := ← text? value }
  | "subtitle" => return { texts with subtitle := ← text? value }
  | "description" => return { texts with description := ← text? value }
  | "cta" => return { texts with cta := ← text? value }
  | _ => return texts

def ofToml? : Placed Toml.Value → Reading CoverTexts :=
  fields? ["title", "subtitle", "description", "cta"] set {} .coverTexts

end CoverTexts

namespace EndingTexts

def set (texts : EndingTexts) (key : String) (value : Placed Toml.Value) :
    Reading EndingTexts := do
  match key with
  | "title" => return { texts with title := ← text? value }
  | "message" => return { texts with message := ← text? value }
  | "cta" => return { texts with cta := ← text? value }
  | _ => return texts

def ofToml? : Placed Toml.Value → Reading EndingTexts :=
  fields? ["title", "message", "cta"] set {} .endingTexts

end EndingTexts

namespace Limits

def set (limits : Limits) (key : String) (value : Placed Toml.Value) : Reading Limits := do
  match key with
  | "max_script_bytes" => return { limits with maxScriptBytes := ← count? value }
  | "max_scenes" => return { limits with maxScenes := ← count? value }
  | "max_lines_per_scene" => return { limits with maxLinesPerScene := ← count? value }
  | "max_choices_per_scene" => return { limits with maxChoicesPerScene := ← count? value }
  | "max_text_length" => return { limits with maxTextLength := ← count? value }
  | "max_id_length" => return { limits with maxIdLength := ← count? value }
  | _ => return limits

def ofToml? : Placed Toml.Value → Reading Limits :=
  fields? ["max_script_bytes", "max_scenes", "max_lines_per_scene", "max_choices_per_scene",
    "max_text_length", "max_id_length"] set {} .limits

end Limits

inductive SettingsError where
  | unreadable (path : String)
  | malformed
  | mismatch (reason : Settings.Mismatch) (excerpt : Toml.Excerpt)
  deriving Repr, Inhabited

namespace SettingsError

def code : SettingsError → String
  | unreadable _ => "cg.io"
  | malformed | mismatch .. => "cg.config"

def detail? : SettingsError → Option String
  | unreadable _ | malformed => none
  | mismatch reason excerpt => some s!"{excerpt.message}{reason.message}\n"

def message : SettingsError → String
  | unreadable path => s!"failed to read {path}"
  | error => ": ".intercalate ("invalid compiler config" :: error.detail?.toList)

end SettingsError

namespace Settings

def set (settings : Settings) (key : String) (value : Placed Toml.Value) : Reading Settings := do
  match key with
  | "cover" => return { settings with cover := ← CoverTexts.ofToml? value }
  | "ending" => return { settings with ending := ← EndingTexts.ofToml? value }
  | "continue_caption" => return { settings with continueCaption := ← text? value }
  | "choice_caption" => return { settings with choiceCaption := ← text? value }
  | "limits" => return { settings with limits := ← Limits.ofToml? value }
  | _ => return settings

def parse (text : String) : Except SettingsError Settings :=
  match Toml.parse? text with
  | none => .error .malformed
  | some entries =>
    match entries.foldlM (fun settings (key, value) ↦ set settings key value) ({} : Settings) with
    | .ok settings => .ok settings
    | .error ⟨region, reason⟩ => .error (.mismatch reason (region.excerpt text.toList))

end Settings

end StoryGraph
