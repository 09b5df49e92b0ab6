import StoryGraph.Text.Bytes
import StoryGraph.Toml.Value

namespace StoryGraph.Toml

open Text (byteCount)

structure Excerpt where
  line : Nat
  column : Nat
  text : List Char
  marks : Nat
  deriving DecidableEq, Repr, Inhabited

/-- The line of `text` in which the region begins. -/
def Region.excerpt (text : List Char) (region : Region) : Excerpt :=
  let before := text.take (text.length - region.start.length)
  let margin := (before.reverse.takeWhile (· ≠ '\n')).reverse
  let line := margin ++ region.start.takeWhile (· ≠ '\n')
  let size := byteCount region.start - byteCount region.stop
  ⟨before.count '\n' + 1, margin.length + 1, line,
    max 1 (min size (byteCount line - margin.length))⟩

def Excerpt.message (excerpt : Excerpt) : String :=
  let number := toString excerpt.line
  let gutter := String.ofList (List.replicate (number.length + 1) ' ')
  let margin := String.ofList (List.replicate excerpt.column ' ')
  let marks := String.ofList (List.replicate excerpt.marks '^')
  s!"TOML parse error at line {number}, column {excerpt.column}\n{gutter}|\n" ++
    s!"{number} | {String.ofList excerpt.text}\n{gutter}|{margin}{marks}\n"

end StoryGraph.Toml
