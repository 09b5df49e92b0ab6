import StoryGraph.Numeric.Digits

namespace StoryGraph

/-- Size budgets. The first two are enforced when a script is read; a script that exceeds another is
only reported. -/
structure Limits where
  maxScriptBytes : Nat := 524288
  maxScenes : Nat := 512
  maxLinesPerScene : Nat := 256
  maxChoicesPerScene : Nat := 8
  maxTextLength : Nat := 4096
  maxIdLength : Nat := 64
  deriving DecidableEq, Repr, Inhabited

def Limits.greatest : Nat := Numeric.greatestWord

def Limits.unbounded : Limits :=
  ⟨greatest, greatest, greatest, greatest, greatest, greatest⟩

structure CoverTexts where
  title : String := "A story for you"
  subtitle : String := ""
  description : String := ""
  cta : String := "Start"
  deriving DecidableEq, Repr, Inhabited

structure EndingTexts where
  title : String := "The End"
  message : String := ""
  cta : String := "Back to start"
  deriving DecidableEq, Repr, Inhabited

structure Settings where
  cover : CoverTexts := {}
  ending : EndingTexts := {}
  continueCaption : String := "Continue"
  choiceCaption : String := "Option"
  limits : Limits := {}
  deriving DecidableEq, Repr, Inhabited

def Settings.captionFor (settings : Settings) (index : Nat) : String :=
  s!"{settings.choiceCaption} {index + 1}"

end StoryGraph
