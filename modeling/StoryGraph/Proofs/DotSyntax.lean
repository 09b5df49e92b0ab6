import StoryGraph.Graph.Dot
import StoryGraph.Proofs.Lexemes

namespace StoryGraph.Dot

inductive Name where
  | bare (text : String)
  | quoted (raw : String)
  deriving DecidableEq, Repr, Inhabited

inductive Token where
  | name (name : Name)
  | mark (c : Char)
  | arrow
  deriving DecidableEq, Repr, Inhabited

/-- What has been read of a token, the last character first. -/
inductive Pending where
  | blank
  | bare (done : List Char)
  | dash
  | quoted (done : List Char)
  deriving DecidableEq, Repr, Inhabited

def isBareChar (c : Char) : Bool := c.isAlphanum || c = '_'

def isMark (c : Char) : Bool := ['{', '}', '[', ']', '=', ';'].contains c

/-- Whether a quote ends the string that `done` has been read of. -/
def closes (done : List Char) : Bool := (done.takeWhile (· = '\\')).length % 2 = 0

def begin? (c : Char) : Option (List Token × Pending) :=
  if c.isWhitespace then some ([], .blank)
  else if c = '"' then some ([], .quoted [])
  else if c = '-' then some ([], .dash)
  else if isBareChar c then some ([], .bare [c])
  else if isMark c then some ([.mark c], .blank)
  else none

def step? : Pending → Char → Option (List Token × Pending)
  | .blank, c => begin? c
  | .bare done, c =>
    if isBareChar c then some ([], .bare (c :: done))
    else (begin? c).map fun (tokens, next) ↦
      (.name (.bare (String.ofList done.reverse)) :: tokens, next)
  | .dash, c => if c = '>' then some ([.arrow], .blank) else none
  | .quoted done, c =>
    if c = '"' ∧ closes done then some ([.name (.quoted (String.ofList done.reverse))], .blank)
    else some ([], .quoted (c :: done))

def run? : Pending → List Char → Option (List Token × Pending)
  | pending, [] => some ([], pending)
  | pending, c :: cs =>
    (step? pending c).bind fun read ↦ (run? read.2 cs).map (Prod.map (read.1 ++ ·) id)

structure Attribute where
  key : Name
  value : Name
  deriving DecidableEq, Repr, Inhabited

inductive Statement where
  | setting (key value : Name)
  | defaults (kind : Name) (attributes : List Attribute)
  | node (name : Name) (attributes : List Attribute)
  | edge (source target : Name) (attributes : List Attribute)
  deriving DecidableEq, Repr, Inhabited

structure Drawing where
  name : Name
  statements : List Statement
  deriving DecidableEq, Repr, Inhabited

def pairs? : List Token → Option (List Attribute)
  | [.mark ']'] => some []
  | .name key :: .mark '=' :: .name value :: tokens => (pairs? tokens).map (⟨key, value⟩ :: ·)
  | _ => none

def attributes? : List Token → Option (List Attribute)
  | [] => some []
  | .mark '[' :: tokens => pairs? tokens
  | _ => none

def keywords : List Name := [.bare "graph", .bare "node", .bare "edge"]

def statement? : List Token → Option Statement
  | [.name key, .mark '=', .name value] => some (.setting key value)
  | .name source :: .arrow :: .name target :: tokens =>
    (attributes? tokens).map (.edge source target)
  | .name name :: tokens =>
    (attributes? tokens).map (if name ∈ keywords then .defaults name else .node name)
  | _ => none

def statements? (done : List Token) : List Token → Option (List Statement)
  | [] => none
  | .mark ';' :: tokens =>
    (statement? done.reverse).bind fun statement ↦
      (statements? [] tokens).map (statement :: ·)
  | .mark '}' :: tokens => if done = [] ∧ tokens = [] then some [] else none
  | token :: tokens => statements? (token :: done) tokens

/-- The drawing that a text is. Each statement ends with a semicolon, and nothing that is no token
is skipped. -/
def drawing? (text : String) : Option Drawing :=
  match run? .blank text.toList with
  | some (.name (.bare "digraph") :: .name name :: .mark '{' :: tokens, .blank) =>
    (statements? [] tokens).map (.mk name)
  | _ => none

/-- Undoes the doubling of backslashes; a single one is refused. -/
def undouble? : List Char → Option (List Char)
  | [] => some []
  | '\\' :: '\\' :: cs => (undouble? cs).map ('\\' :: ·)
  | c :: cs => if c = '\\' then none else (undouble? cs).map (c :: ·)

section Tokens

variable {pending middle last : Pending} {cs ds done text : List Char} {tokens more : List Token}
  {c : Char}

theorem run?_append (h : run? pending cs = some (tokens, middle))
    (hmore : run? middle ds = some (more, last)) :
    run? pending (cs ++ ds) = some (tokens ++ more, last) := by
  induction cs generalizing pending tokens with
  | nil =>
    cases h
    exact hmore
  | cons c cs ih =>
    obtain ⟨read, hstep, h⟩ := Option.bind_eq_some_iff.mp h
    obtain ⟨⟨rest, _⟩, hrun, hend⟩ := Option.map_eq_some_iff.mp h
    cases hend
    rw [List.cons_append, run?, hstep, Option.bind_some, ih hrun, List.append_assoc]
    rfl

def EndsName (cs : List Char) : Prop := ∃ c rest, cs = c :: rest ∧ isBareChar c = false

theorem run?_bare (h : ∀ c ∈ cs, isBareChar c = true) :
    run? (.bare done) cs = some ([], .bare (cs.reverse ++ done)) := by
  induction cs generalizing done with
  | nil => rfl
  | cons c cs ih =>
    obtain ⟨hc, hcs⟩ := List.forall_mem_cons.mp h
    rw [run?, step?, if_pos hc, Option.bind_some, ih hcs, List.reverse_cons, List.append_assoc]
    rfl

theorem run?_quoted (h : '"' ∉ cs) :
    run? (.quoted done) cs = some ([], .quoted (cs.reverse ++ done)) := by
  induction cs generalizing done with
  | nil => rfl
  | cons c cs ih =>
    obtain ⟨hc, hcs⟩ := List.ne_and_not_mem_of_not_mem_cons h
    have hopen : ¬ (c = '"' ∧ closes done = true) := fun hclose ↦ hc hclose.1.symm
    rw [run?, step?, if_neg hopen, Option.bind_some, ih hcs, List.reverse_cons, List.append_assoc]
    rfl

theorem undouble?_cons_of_ne (h : c ≠ '\\') :
    undouble? (c :: cs) = (undouble? cs).map (c :: ·) := by
  rw [undouble?, if_neg h]
  exact fun _ hc _ ↦ h hc

theorem undouble?_append (h : undouble? cs = some text) :
    undouble? (cs ++ ds) = (undouble? ds).map (text ++ ·) := by
  induction cs using undouble?.induct generalizing text with
  | case1 =>
    cases h
    exact Option.map_id'.symm
  | case2 cs ih =>
    obtain ⟨rest, hrest, rfl⟩ := Option.map_eq_some_iff.mp h
    rw [List.cons_append, List.cons_append, undouble?, ih hrest, Option.map_map]
    rfl
  | case3 cs hpair =>
    rw [undouble?, if_pos rfl] at h
    · cases h
    · exact hpair
  | case4 c cs _ hne ih =>
    rw [undouble?_cons_of_ne hne] at h
    obtain ⟨rest, hrest, rfl⟩ := Option.map_eq_some_iff.mp h
    rw [List.cons_append, undouble?_cons_of_ne hne, ih hrest, Option.map_map]
    rfl

theorem undouble?_plain (h : '\\' ∉ cs) : undouble? cs = some cs := by
  induction cs with
  | nil => rfl
  | cons c cs ih =>
    obtain ⟨hc, hcs⟩ := List.ne_and_not_mem_of_not_mem_cons h
    rw [undouble?_cons_of_ne hc.symm, ih hcs, Option.map_some]

theorem closes_append (h : closes cs = true) : closes (done ++ cs) = closes done := by
  have heven := of_decide_eq_true h
  rw [closes, closes, List.takeWhile_append]
  split_ifs with hall
  · rw [List.length_append, hall, Nat.add_mod, heven, Nat.add_zero, Nat.mod_mod]
  · rfl

theorem closes_singleton (h : c ≠ '\\') : closes [c] = true := by
  simp [closes, h]

/-- Doubled backslashes stand in runs of even length, so none of them keeps a string open. -/
theorem closes_of_undouble? (h : undouble? cs = some text) : closes cs.reverse = true := by
  induction cs using undouble?.induct generalizing text with
  | case1 => rfl
  | case2 cs ih =>
    obtain ⟨rest, hrest, _⟩ := Option.map_eq_some_iff.mp h
    rw [List.reverse_cons, List.reverse_cons, List.append_assoc]
    exact (closes_append rfl).trans (ih hrest)
  | case3 cs hpair =>
    rw [undouble?, if_pos rfl] at h
    · cases h
    · exact hpair
  | case4 c cs _ hne ih =>
    rw [undouble?_cons_of_ne hne] at h
    obtain ⟨rest, hrest, _⟩ := Option.map_eq_some_iff.mp h
    rw [List.reverse_cons, closes_append (closes_singleton hne), ih hrest]

/-- What stands between quotes for a text: no quote ends it, and every backslash is doubled. -/
structure Depicts (raw plain : String) : Prop where
  quote_not_mem : '"' ∉ raw.toList
  undoubled : undouble? raw.toList = some plain.toList

theorem Depicts.append {raw raw' plain plain' : String} (h : Depicts raw plain)
    (h' : Depicts raw' plain') : Depicts (raw ++ raw') (plain ++ plain') := by
  constructor
  · rw [String.toList_append]
    exact List.not_mem_append h.quote_not_mem h'.quote_not_mem
  · rw [String.toList_append, undouble?_append h.undoubled, h'.undoubled, Option.map_some,
      String.toList_append]

theorem depicts_self {plain : String} (hquote : '"' ∉ plain.toList)
    (hbackslash : '\\' ∉ plain.toList) : Depicts plain plain :=
  ⟨hquote, undouble?_plain hbackslash⟩

theorem Depicts.run? {raw plain : String} (h : Depicts raw plain)
    (hrest : run? .blank cs = some (tokens, last)) :
    run? (.quoted []) (raw.toList ++ '"' :: cs) = some (.name (.quoted raw) :: tokens, last) := by
  refine run?_append (run?_quoted h.quote_not_mem) ?_
  rw [Dot.run?, step?, List.append_nil, if_pos ⟨rfl, closes_of_undouble? h.undoubled⟩,
    Option.bind_some, hrest, List.reverse_reverse, String.ofList_toList]
  rfl

theorem run?_name {word : String} (hword : run? pending cs = some ([], .bare word.toList.reverse))
    (hends : EndsName ds) (h : run? .blank ds = some (tokens, last)) :
    run? pending (cs ++ ds) = some (.name (.bare word) :: tokens, last) := by
  obtain ⟨c, ds, rfl, hc⟩ := hends
  refine run?_append hword ?_
  obtain ⟨read, hread, hrun⟩ := Option.bind_eq_some_iff.mp h
  obtain ⟨rest, hrest, hend⟩ := Option.map_eq_some_iff.mp hrun
  change begin? c = some read at hread
  rw [run?, step?, hc, if_neg Bool.false_ne_true, hread, Option.map_some, Option.bind_some, hrest,
    List.reverse_reverse, String.ofList_toList]
  cases hend
  rfl

theorem isBareChar_of_isDigit (h : Numeric.isDigit c = true) : isBareChar c = true := by
  rw [Numeric.isDigit_eq] at h
  simp [isBareChar, Char.isAlphanum, h]

end Tokens

def Attribute.tokens (pair : Attribute) : List Token :=
  [.name pair.key, .mark '=', .name pair.value]

namespace Statement

def attributeTokens (attributes : List Attribute) : List Token :=
  .mark '[' :: (attributes.flatMap Attribute.tokens ++ [.mark ']'])

def tokens : Statement → List Token
  | setting key value => [.name key, .mark '=', .name value]
  | defaults name attributes | node name attributes => .name name :: attributeTokens attributes
  | edge source target attributes =>
    .name source :: .arrow :: .name target :: attributeTokens attributes

def IsSound : Statement → Prop
  | setting _ _ | edge _ _ _ => True
  | defaults kind _ => kind ∈ keywords
  | node name _ => name ∉ keywords

variable {statement : Statement} {attributes : List Attribute} {token : Token}

theorem pairs?_tokens (attributes : List Attribute) :
    pairs? (attributes.flatMap Attribute.tokens ++ [.mark ']']) = some attributes := by
  induction attributes with
  | nil => rfl
  | cons pair attributes ih =>
    change (pairs? (attributes.flatMap Attribute.tokens ++ [.mark ']'])).map _ = _
    rw [ih, Option.map_some]

theorem attributes?_tokens (attributes : List Attribute) :
    attributes? (attributeTokens attributes) = some attributes := by
  rw [attributeTokens, attributes?, pairs?_tokens]

theorem statement?_tokens (h : statement.IsSound) :
    statement? statement.tokens = some statement := by
  cases statement with
  | setting key value => rfl
  | defaults kind attributes =>
    change (attributes? (attributeTokens attributes)).map _ = _
    rw [attributes?_tokens, if_pos (show kind ∈ keywords from h), Option.map_some]
  | node name attributes =>
    change (attributes? (attributeTokens attributes)).map _ = _
    rw [attributes?_tokens, if_neg (show name ∉ keywords from h), Option.map_some]
  | edge source target attributes =>
    change (attributes? (attributeTokens attributes)).map _ = _
    rw [attributes?_tokens, Option.map_some]

theorem ne_end_of_mem_attributeTokens (h : token ∈ attributeTokens attributes) :
    token ≠ .mark ';' ∧ token ≠ .mark '}' := by
  simp only [attributeTokens, Attribute.tokens, List.mem_cons, List.mem_append, List.mem_flatMap,
    List.not_mem_nil, or_false] at h
  rcases h with rfl | ⟨_, _, rfl | rfl | rfl⟩ | rfl
  all_goals simp

theorem ne_end_of_mem_tokens (h : token ∈ statement.tokens) :
    token ≠ .mark ';' ∧ token ≠ .mark '}' := by
  cases statement with
  | setting key value =>
    simp only [tokens, List.mem_cons, List.not_mem_nil, or_false] at h
    rcases h with rfl | rfl | rfl
    all_goals simp
  | defaults name attributes | node name attributes =>
    obtain rfl | hmem := List.mem_cons.mp h
    · simp
    · exact ne_end_of_mem_attributeTokens hmem
  | edge source target attributes =>
    simp only [tokens, List.mem_cons] at h
    rcases h with rfl | rfl | rfl | hmem
    iterate 3 simp
    exact ne_end_of_mem_attributeTokens hmem

end Statement

theorem statements?_pending {done tokens rest : List Token}
    (h : ∀ token ∈ tokens, token ≠ .mark ';' ∧ token ≠ .mark '}') :
    statements? done (tokens ++ rest) = statements? (tokens.reverse ++ done) rest := by
  induction tokens generalizing done with
  | nil => rfl
  | cons token tokens ih =>
    obtain ⟨⟨hsemicolon, hbrace⟩, htokens⟩ := List.forall_mem_cons.mp h
    rw [List.cons_append, statements?, ih htokens, List.reverse_cons, List.append_assoc]
    · rfl
    · exact hsemicolon
    · exact hbrace

theorem statements?_tokens {statements : List Statement} {rest : List Token}
    (h : ∀ statement ∈ statements, statement.IsSound) :
    statements? [] (statements.flatMap (fun statement ↦ statement.tokens ++ [.mark ';']) ++ rest) =
      (statements? [] rest).map (statements ++ ·) := by
  induction statements with
  | nil => exact Option.map_id'.symm
  | cons statement statements ih =>
    obtain ⟨hstatement, hstatements⟩ := List.forall_mem_cons.mp h
    rw [List.flatMap_cons, List.append_assoc, List.append_assoc,
      statements?_pending fun _ ↦ Statement.ne_end_of_mem_tokens, List.append_nil,
      List.singleton_append, statements?, List.reverse_reverse,
      Statement.statement?_tokens hstatement, Option.bind_some, ih hstatements, Option.map_map]
    rfl

namespace Drawing

variable {drawing : Drawing} {text : String}

def tokens (drawing : Drawing) : List Token :=
  .name (.bare "digraph") :: .name drawing.name :: .mark '{' ::
    (drawing.statements.flatMap (fun statement ↦ statement.tokens ++ [.mark ';']) ++ [.mark '}'])

theorem drawing?_of_run? (h : run? .blank text.toList = some (drawing.tokens, .blank))
    (hsound : ∀ statement ∈ drawing.statements, statement.IsSound) :
    drawing? text = some drawing := by
  rw [drawing?, h, tokens]
  change (statements? [] (_ ++ [Token.mark '}'])).map _ = _
  rw [statements?_tokens hsound]
  change some (Drawing.mk drawing.name (drawing.statements ++ [])) = _
  rw [List.append_nil]

end Drawing

end StoryGraph.Dot
