namespace StoryGraph.Text

def byteCount : List Char → Nat
  | [] => 0
  | c :: cs => c.utf8Size + byteCount cs

end StoryGraph.Text
