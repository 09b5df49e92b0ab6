import StoryGraph.Toml.Value

namespace StoryGraph.Toml

structure Path where
  parents : List (Placed String)
  last : Placed String
  deriving DecidableEq, Repr, Inhabited

structure Assignment where
  path : Path
  value : Placed Value
  deriving Repr, Inhabited

inductive Statement where
  | assign (assignment : Assignment)
  | header (path : Placed Path)
  | listHeader (path : Placed Path)
  deriving Repr, Inhabited

namespace Entries

def changeLast? (change : Entries → Option Entries) (elements : List (Placed Entries)) :
    Option (List (Placed Entries)) :=
  match elements.getLast? with
  | none => none
  | some last => (change last.value).map fun inner ↦
      elements.dropLast ++ [{ last with value := inner }]

/-- Adds a value under a dotted key. The tables on the way are made where they are missing; one that
is there already must not have a header, and the last must have been made by a dotted key. -/
def assign? (key : String) (value : Placed Value) :
    List (Placed String) → Entries → Option Entries
  | [], entries => if (entries.get? key).isSome then none else some (entries ++ [(key, value)])
  | parent :: path, entries =>
    match entries.get? parent.value with
    | none => do
      let inner ← assign? key value path []
      return entries ++ [(parent.value, ⟨parent.region, .table .dotted inner⟩)]
    | some ⟨region, .table origin inner⟩ =>
      if origin = .dotted ∨ (origin = .implied ∧ path ≠ []) then do
        let inner ← assign? key value path inner
        return entries.replace parent.value ⟨region, .table origin inner⟩
      else none
    | some ⟨region, .tables elements⟩ =>
      if path = [] then none
      else do
        let elements ← changeLast? (assign? key value path) elements
        return entries.replace parent.value ⟨region, .tables elements⟩
    | some _ => none

/-- Changes the table that the parents of a header lead to. Tables on the way that are missing are
implied; in a list of tables the last one counts. -/
def within? (change : Entries → Option Entries) :
    List (Placed String) → Entries → Option Entries
  | [], entries => change entries
  | parent :: path, entries =>
    match entries.get? parent.value with
    | none => do
      let inner ← within? change path []
      return entries ++ [(parent.value, ⟨parent.region, .table .implied inner⟩)]
    | some ⟨_, .table .inline _⟩ => none
    | some ⟨region, .table origin inner⟩ => do
      let inner ← within? change path inner
      return entries.replace parent.value ⟨region, .table origin inner⟩
    | some ⟨region, .tables elements⟩ => do
      let elements ← changeLast? (within? change path) elements
      return entries.replace parent.value ⟨region, .tables elements⟩
    | some _ => none

def assignAll? (assignments : List Assignment) (entries : Entries) : Option Entries :=
  assignments.foldlM
    (fun entries a ↦ assign? a.path.last.value a.value a.path.parents entries) entries

/-- Gives a table its header and the values under it. Only an implied table may be there already; it
moves to the end. -/
def define? (key : String) (region : Region) (assignments : List Assignment) (entries : Entries) :
    Option Entries := do
  let inner ← match entries.get? key with
    | none => some []
    | some ⟨_, .table .implied inner⟩ => some inner
    | some _ => none
  return entries.erase key ++ [(key, ⟨region, .table .header (← assignAll? assignments inner)⟩)]

def append? (key : String) (region : Region) (assignments : List Assignment) (entries : Entries) :
    Option Entries := do
  let inner ← assignAll? assignments []
  match entries.get? key with
  | none => return entries ++ [(key, ⟨region, .tables [⟨region, inner⟩]⟩)]
  | some ⟨first, .tables elements⟩ =>
    return entries.replace key ⟨first.upTo region, .tables (elements ++ [⟨region, inner⟩])⟩
  | some _ => none

end Entries

def Statement.spanAssignments : List Statement → List Assignment × List Statement
  | .assign a :: rest =>
    let (assignments, rest) := spanAssignments rest
    (a :: assignments, rest)
  | rest => ([], rest)

def Region.section (header : Region) (assignments : List Assignment) : Region :=
  assignments.foldl (fun region a ↦ region.upTo a.value.region) header

def Entries.addSections? : Nat → List Statement → Entries → Option Entries
  | _, [], root => some root
  | 0, _ :: _, _ => none
  | fuel + 1, statement :: rest, root =>
    let (assignments, rest) := Statement.spanAssignments rest
    match statement with
    | .assign _ => none
    | .header ⟨region, path⟩ => do
      let change := define? path.last.value (region.section assignments) assignments
      addSections? fuel rest (← root.within? change path.parents)
    | .listHeader ⟨region, path⟩ => do
      let change := append? path.last.value (region.section assignments) assignments
      addSections? fuel rest (← root.within? change path.parents)

def Entries.ofStatements? (statements : List Statement) : Option Entries := do
  let (assignments, rest) := Statement.spanAssignments statements
  addSections? rest.length rest (← assignAll? assignments [])

def Value.ofAssignments? (assignments : List Assignment) : Option Value :=
  (Entries.assignAll? assignments []).map (.table .inline)

end StoryGraph.Toml
