import StoryGraph.Json.Error

namespace StoryGraph.Json

open Text (byteCount)

/-- A window of a text and the place in it that an error points at, in bytes. -/
structure Excerpt where
  window : String
  offset : Nat
  length : Nat
  deriving DecidableEq, Repr, Inhabited

namespace Excerpt

def seekLine (offset : Nat) : Nat → List Char → Option (Nat × List Char)
  | _, [] => none
  | 0, cs => some (offset, cs)
  | n + 1, c :: cs => seekLine (offset + c.utf8Size) (if c = '\n' then n else n + 1) cs

def firstLine (cs : List Char) : List Char :=
  let (line, rest) := cs.span (· ≠ '\n')
  line ++ rest.take 1

/-- The offset in a line of the character that `column` counts to, or of the line's last byte. -/
def columnOffset (line : List Char) (column : Nat) : Nat :=
  if column ≤ line.length then byteCount (line.take (column - 1)) else byteCount line - 1

def offsetOf (text : List Char) (p : Position) : Nat :=
  if p.line = 0 ∨ p.column = 0 then 0
  else
    match seekLine 0 (p.line - 1) text with
    | some (start, cs) => start + columnOffset (firstLine cs) p.column
    | none => byteCount text - 1

def reach : Nat := 160

def dropTo (n : Nat) : Nat → List Char → Nat × List Char
  | before, [] => (before, [])
  | before, c :: cs =>
    if before + c.utf8Size ≤ n then dropTo n (before + c.utf8Size) cs else (before, c :: cs)

def takeTo (done : List Char) : Nat → List Char → List Char
  | _, [] => done.reverse
  | n, c :: cs => if n = 0 then done.reverse else takeTo (c :: done) (n - c.utf8Size) cs

def around (text : List Char) (offset : Nat) : Excerpt :=
  let (before, rest) := dropTo (offset - reach) 0 text
  let window := takeTo [] (offset + 1 + reach - before) rest
  let start := offset - before
  ⟨String.ofList window, start, min 1 (byteCount window - start)⟩

end Excerpt

/-- The excerpt of `text` that shows where an error is. The column counts bytes, but it is looked up
by counting characters, so behind longer characters the excerpt points past the refused byte. -/
def SyntaxError.excerpt (e : SyntaxError) (text : String) : Excerpt :=
  .around text.toList (Excerpt.offsetOf text.toList e.position)

end StoryGraph.Json
