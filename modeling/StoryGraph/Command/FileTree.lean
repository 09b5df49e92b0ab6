namespace StoryGraph

inductive FileError where
  | notFound
  | fileExists
  | notADirectory
  | isADirectory
  | nameTooLong
  | notText
  | other (message : String)
  deriving DecidableEq, Repr, Inhabited

def FileError.message : FileError → String
  | notFound => "No such file or directory (os error 2)"
  | fileExists => "File exists (os error 17)"
  | notADirectory => "Not a directory (os error 20)"
  | isADirectory => "Is a directory (os error 21)"
  | nameTooLong => "File name too long (os error 36)"
  | notText => "stream did not contain valid UTF-8"
  | other message => message

inductive FileEntry where
  | file (bytes : ByteArray)
  | directory
  | sink
  deriving Inhabited

def FileEntry.isDirectory : FileEntry → Bool
  | directory => true
  | file _ | sink => false

def decodeText (bytes : ByteArray) : Except FileError String :=
  match String.fromUTF8? bytes with
  | some text => .ok text
  | none => .error .notText

/-- The names on the way from the starting point to an entry. A place above the starting point
begins with two dots for each level, and a place that is counted from the root with a slash. -/
abbrev Place := List String

namespace Place

def root : Place := ["/"]

def isGiven (place : Place) : Bool := place.all (· == "..") || place == root

def above (place : Place) : Place :=
  if place = root then root
  else if place.isGiven then ".." :: place
  else place.dropLast

end Place

def maxNameSize : Nat := 255

def maxPathSize : Nat := 4095

def pathStart (path : String) : Place := if path.startsWith "/" then Place.root else []

def pathParts (path : String) : List String := (path.toList.splitOn '/').map String.ofList

def pathNames (path : String) : List String :=
  let all := (pathParts path).filter (· ≠ "")
  all.take 1 ++ (all.drop 1).filter (· ≠ ".")

/-- Entries by place. The starting point, the directories above it and the root need no entry. -/
structure FileTree where
  entries : List (Place × FileEntry)
  deriving Inhabited

namespace FileTree

variable (tree : FileTree)

def get? (place : Place) : Option FileEntry :=
  if place.isGiven then some .directory
  else (tree.entries.find? fun entry ↦ entry.1 = place).map Prod.snd

def put (place : Place) (entry : FileEntry) : FileTree :=
  ⟨(place, entry) :: tree.entries.filter fun other ↦ other.1 ≠ place⟩

def enter (place : Place) (name : String) : Except FileError Place :=
  match tree.get? place with
  | none => .error .notFound
  | some (.file _) | some .sink => .error .notADirectory
  | some .directory =>
    if name = "" ∨ name = "." then .ok place
    else if name = ".." then .ok place.above
    else if maxNameSize < name.utf8ByteSize then .error .nameTooLong
    else .ok (place ++ [name])

/-- Follows names from a place. Every name but the last has to lead to a directory. -/
def follow (place : Place) (names : List String) : Except FileError Place :=
  names.foldlM tree.enter place

def read (path : String) : Except FileError String :=
  if path = "" then .error .notFound
  else if maxPathSize < path.utf8ByteSize then .error .nameTooLong
  else
    match tree.follow (pathStart path) (pathParts path) with
    | .error error => .error error
    | .ok place =>
      match tree.get? place with
      | none => .error .notFound
      | some .directory => .error .isADirectory
      | some (.file bytes) => decodeText bytes
      | some .sink => .ok ""

def create (entry : FileEntry) (place : Place) : Except FileError FileTree :=
  match tree.get? place.above with
  | none => .error .notFound
  | some (.file _) | some .sink => .error .notADirectory
  | some .directory => .ok (tree.put place entry)

def makeDirectory (start : Place) (names : List String) : Except FileError FileTree :=
  if maxPathSize < ("/".intercalate names).utf8ByteSize then .error .nameTooLong
  else
    match tree.follow start names with
    | .error error => .error error
    | .ok place =>
      match tree.get? place with
      | some _ => .error .fileExists
      | none => tree.create .directory place

def leadsToDirectory (start : Place) (names : List String) : Bool :=
  match tree.follow start names with
  | .ok place => (tree.get? place).any FileEntry.isDirectory
  | .error _ => false

def makeDirectories (start : Place) : List String → Except FileError FileTree
  | [] => .ok tree
  | name :: above =>
    let names := (name :: above).reverse
    match tree.makeDirectory start names with
    | .ok made => .ok made
    | .error .notFound =>
      match makeDirectories start above with
      | .error error => .error error
      | .ok made =>
        match made.makeDirectory start names with
        | .ok made => .ok made
        | .error error => if made.leadsToDirectory start names then .ok made else .error error
    | .error error => if tree.leadsToDirectory start names then .ok tree else .error error

def makeParents (path : String) : Except FileError FileTree :=
  tree.makeDirectories (pathStart path) (pathNames path).dropLast.reverse

def writeAt (place : Place) (text : String) : Except FileError FileTree :=
  match tree.get? place with
  | some .directory => .error .isADirectory
  | some (.file _) => .ok (tree.put place (.file text.toUTF8))
  | some .sink => .ok tree
  | none => tree.create (.file text.toUTF8) place

/-- Writes a text to a file. A path that ends in a slash or in dots means a directory, whatever its
last name is, as long as the names before that lead to one. -/
def write (path text : String) : Except FileError FileTree :=
  let names := (pathParts path).filter (· ≠ "")
  if path = "" then .error .notFound
  else if maxPathSize < path.utf8ByteSize then .error .nameTooLong
  else
    match tree.follow (pathStart path) (names.dropLast ++ ["."]) with
    | .error error => .error error
    | .ok place =>
      let last := names.getLastD "."
      if path.endsWith "/" ∨ last = "." ∨ last = ".." then .error .isADirectory
      else
        match tree.enter place last with
        | .error error => .error error
        | .ok place => tree.writeAt place text

def bare : FileTree :=
  let directories := ["bin", "dev", "etc", "home", "lib", "opt", "proc", "root", "run", "sbin",
    "sys", "tmp", "usr", "var"]
  ⟨(["/", "dev", "null"], .sink) :: directories.map fun name ↦ (["/", name], .directory)⟩

/-- Writes a text to a file and makes the directories above it; where that fails nothing changes. -/
def place (path text : String) : FileTree :=
  match tree.makeParents path with
  | .error _ => tree
  | .ok made =>
    match made.write path text with
    | .error _ => tree
    | .ok saved => saved

def ofFiles (files : List (String × String)) : FileTree :=
  files.foldl (fun tree (path, text) ↦ tree.place path text) bare

end FileTree

end StoryGraph
