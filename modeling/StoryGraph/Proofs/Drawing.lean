import Mathlib.Data.List.Induction
import StoryGraph.Proofs.DotSyntax
import StoryGraph.Proofs.Labels

namespace StoryGraph

open Dot

namespace Dot

def apostrophes (text : String) : String := text.map fun c ↦ if c = '"' then '\x27' else c

theorem depicts_escapeChar (c : Char) : '"' ∉ escapeChar c ∧
    undouble? (escapeChar c) = some [if c = '"' then '\x27' else c] := by
  unfold escapeChar
  split
  case h_3 hbackslash hquote =>
    refine ⟨mt List.mem_singleton.mp (Ne.symm hquote), ?_⟩
    rw [if_neg hquote]
    exact undouble?_cons_of_ne hbackslash
  all_goals decide

theorem depicts_escape (text : String) : Depicts (escape text) (apostrophes text) := by
  have hchars : ∀ cs : List Char, '"' ∉ cs.flatMap escapeChar ∧
      undouble? (cs.flatMap escapeChar) = some (cs.map fun c ↦ if c = '"' then '\x27' else c) := by
    intro cs
    induction cs with
    | nil => exact ⟨List.not_mem_nil, rfl⟩
    | cons c cs ih =>
      obtain ⟨hquote, hundoubled⟩ := depicts_escapeChar c
      refine ⟨List.not_mem_append hquote ih.1, ?_⟩
      rw [List.flatMap_cons, undouble?_append hundoubled, ih.2]
      rfl
  obtain ⟨hquote, hundoubled⟩ := hchars text.toList
  constructor
  · rwa [escape, String.toList_ofList]
  · rw [escape, String.toList_ofList, hundoubled, apostrophes, String.toList_map]

def Attribute.Shows (label : Attribute) (plain : String) : Prop :=
  ∃ raw, label = ⟨.bare "label", .quoted raw⟩ ∧ Depicts raw plain

theorem depicts_repr (n : Nat) : Depicts n.repr n.repr := by
  have hdigits : ∀ c ∈ n.repr.toList, Numeric.isDigit c = true := by
    rw [Nat.toList_repr]
    exact fun _ ↦ Numeric.isDigit_of_mem_toDigits
  exact depicts_self (fun h ↦ absurd (hdigits _ h) (by decide))
    fun h ↦ absurd (hdigits _ h) (by decide)

def nodeName (position : Nat) : Name := .bare s!"n{position}"

def IsWord (word : String) : Prop :=
  run? .blank word.toList = some ([], .bare word.toList.reverse)

end Dot

namespace DotStatement

def drawn : DotStatement → Statement
  | node position caption shape color =>
    .node (nodeName position) [⟨.bare "label", .quoted caption⟩, ⟨.bare "shape", .bare shape⟩,
      ⟨.bare "color", .bare color⟩]
  | edge source target style caption =>
    .edge (nodeName source) (nodeName target) (⟨.bare "style", .bare style⟩ ::
      (caption.map fun text ↦ ⟨.bare "label", .quoted text⟩).toList)

def IsSound : DotStatement → Prop
  | node _ caption shape color => (∃ plain, Depicts caption plain) ∧ IsWord shape ∧ IsWord color
  | edge _ _ style caption => IsWord style ∧ ∀ text ∈ caption, ∃ plain, Depicts text plain

variable {statement : DotStatement}

theorem toList_nodeName (position : Nat) :
    s!"n{position}".toList = 'n' :: Nat.toDigits 10 position := by
  simp only [String.toList_append, toString, Nat.toList_repr]
  rfl

theorem nodeName_not_mem_keywords (position : Nat) : nodeName position ∉ keywords := by
  have hword : ∀ {word : String}, nodeName position = .bare word →
      word.toList = 'n' :: Nat.toDigits 10 position := by
    rintro _ ⟨⟩
    exact toList_nodeName position
  intro h
  simp only [keywords, List.mem_cons, List.not_mem_nil, or_false] at h
  rcases h with h | h | h
  · cases hword h
  · have hdigit : 'o' ∈ Nat.toDigits 10 position := by
      rw [← (List.cons.inj (hword h)).2]
      decide
    exact absurd (Numeric.isDigit_of_mem_toDigits hdigit) (by decide)
  · cases hword h

theorem isSound_drawn (statement : DotStatement) : statement.drawn.IsSound := by
  cases statement with
  | node position => exact nodeName_not_mem_keywords position
  | edge => trivial

theorem run?_position (position : Nat) : run? (.bare ['n']) (Nat.toDigits 10 position) =
    some ([], .bare s!"n{position}".toList.reverse) := by
  rw [toList_nodeName, List.reverse_cons]
  exact run?_bare fun _ hc ↦ isBareChar_of_isDigit (Numeric.isDigit_of_mem_toDigits hc)

theorem endsName_blank (cs : List Char) : EndsName (' ' :: cs) := ⟨' ', cs, rfl, rfl⟩

theorem run?_edge {source target : Nat} {style : String} {cs : List Char} {tokens : List Token}
    (hstyle : IsWord style) (hends : EndsName cs) (h : run? .blank cs = some (tokens, .blank)) :
    run? .blank ("    n".toList ++ (Nat.toDigits 10 source ++ (" -> n".toList ++
      (Nat.toDigits 10 target ++ (" [style=".toList ++ (style.toList ++ cs)))))) =
      some (.name (nodeName source) :: .arrow :: .name (nodeName target) :: .mark '[' ::
        .name (.bare "style") :: .mark '=' :: .name (.bare style) :: tokens, .blank) := by
  have hnode : run? .blank "    n".toList = some ([], .bare ['n']) := rfl
  have harrow : run? .blank " -> n".toList = some ([.arrow], .bare ['n']) := rfl
  have hkey : run? .blank " [style=".toList =
      some ([.mark '[', .name (.bare "style"), .mark '='], .blank) := rfl
  have htarget := run?_name (run?_position target) (endsName_blank _)
    (run?_append hkey (run?_name hstyle hends h))
  exact run?_append hnode
    (run?_name (run?_position source) (endsName_blank _) (run?_append harrow htarget))

theorem run?_text (h : statement.IsSound) :
    run? .blank statement.text.toList = some (statement.drawn.tokens ++ [.mark ';'], .blank) := by
  have hend : run? .blank "];\n".toList = some ([.mark ']', .mark ';'], .blank) := rfl
  have hends : EndsName "];\n".toList := ⟨_, _, rfl, rfl⟩
  cases statement with
  | node position caption shape color =>
    obtain ⟨⟨_, hcaption⟩, hshape, hcolor⟩ := h
    have hnode : run? .blank "    n".toList = some ([], .bare ['n']) := rfl
    have hlabelKey : run? .blank " [label=\"".toList =
        some ([.mark '[', .name (.bare "label"), .mark '='], .quoted []) := rfl
    have hshapeKey : run? .blank " shape=".toList =
        some ([.name (.bare "shape"), .mark '='], .blank) := rfl
    have hcolorKey : run? .blank " color=".toList =
        some ([.name (.bare "color"), .mark '='], .blank) := rfl
    -- Each attribute is read in front of those behind it, so the text is built up from its end.
    have hcolor := run?_append hcolorKey (run?_name hcolor hends hend)
    have hshape := run?_append hshapeKey (run?_name hshape (endsName_blank _) hcolor)
    have hlabel := run?_append hlabelKey (hcaption.run? hshape)
    have htext := run?_append hnode (run?_name (run?_position position) (endsName_blank _) hlabel)
    change run? .blank ("    n" ++ position.repr ++ " [label=\"" ++ caption ++ "\" shape=" ++
      shape ++ " color=" ++ color ++ "];\n").toList = _
    simp only [String.toList_append, List.append_assoc, Nat.toList_repr]
    exact htext
  | edge source target style caption =>
    obtain ⟨hstyle, hcaption⟩ := h
    cases caption with
    | none =>
      change run? .blank ("    n" ++ source.repr ++ " -> n" ++ target.repr ++ " [style=" ++ style ++
        "" ++ "];\n").toList = _
      simp only [String.toList_append, List.append_assoc, Nat.toList_repr]
      exact run?_edge hstyle hends hend
    | some caption =>
      obtain ⟨_, hcaption⟩ := hcaption _ rfl
      have hlabelKey : run? .blank " label=\"".toList =
          some ([.name (.bare "label"), .mark '='], .quoted []) := rfl
      have hlabel := run?_append hlabelKey (hcaption.run? hend)
      change run? .blank ("    n" ++ source.repr ++ " -> n" ++ target.repr ++ " [style=" ++ style ++
        (" label=\"" ++ caption ++ "\"") ++ "];\n").toList = _
      simp only [String.toList_append, List.append_assoc, Nat.toList_repr]
      exact run?_edge hstyle (endsName_blank _) hlabel

theorem run?_texts {statements : List DotStatement}
    (h : ∀ statement ∈ statements, statement.IsSound) :
    run? .blank (String.join (statements.map text)).toList =
      some ((statements.map drawn).flatMap (fun statement ↦ statement.tokens ++ [.mark ';']),
        .blank) := by
  induction statements with
  | nil => rfl
  | cons statement statements ih =>
    obtain ⟨hstatement, hstatements⟩ := List.forall_mem_cons.mp h
    rw [List.map_cons, String.join_cons, String.toList_append, List.map_cons, List.flatMap_cons]
    exact run?_append (run?_text hstatement) (ih hstatements)

end DotStatement

namespace Node

variable {node : Node} {reachable : List Label}

def shownCaption (node : Node) : String :=
  match node.content with
  | .cover card => "[cover] " ++ apostrophes card.title
  | .ending card => "[ending] " ++ apostrophes card.title
  | .scene card =>
    "[" ++ apostrophes node.label.display ++ "] " ++ card.lines.length.repr ++ " lines"

theorem depicts_dotCaption (node : Node) : Depicts node.dotCaption node.shownCaption := by
  obtain ⟨label, content, continuation⟩ := node
  cases content with
  | cover card => exact (depicts_self (by decide) (by decide)).append (depicts_escape card.title)
  | ending card => exact (depicts_self (by decide) (by decide)).append (depicts_escape card.title)
  | scene card =>
    have hopen : Depicts "[" "[" := depicts_self (by decide) (by decide)
    have hclose : Depicts "] " "] " := depicts_self (by decide) (by decide)
    have hlines : Depicts " lines" " lines" := depicts_self (by decide) (by decide)
    exact (((hopen.append (depicts_escape label.display)).append hclose).append
      (depicts_repr card.lines.length)).append hlines

theorem isWord_dotShape (node : Node) : IsWord node.dotShape := by
  unfold dotShape
  split
  all_goals rfl

theorem isWord_dotColor (node : Node) (reachable : List Label) :
    IsWord (node.dotColor reachable) := by
  unfold dotColor
  split_ifs
  all_goals rfl

theorem dotColor_eq_red_iff : node.dotColor reachable = "red" ↔ node.label ∉ reachable := by
  have hcontains : (!reachable.contains node.label) = true ↔ node.label ∉ reachable := by simp
  rw [dotColor, ← hcontains]
  split_ifs with hunreached hcover
  · exact iff_of_true rfl hunreached
  · exact iff_of_false (by decide) hunreached
  · exact iff_of_false (by decide) hunreached

end Node

theorem EdgeKind.isWord_dotStyle (kind : EdgeKind) : IsWord kind.dotStyle := by
  unfold dotStyle
  split
  all_goals rfl

namespace Graph

variable {graph : Graph} {label : Label} {position : Nat} {edge : Edge}

structure IsLastPosition (graph : Graph) (label : Label) (position : Nat) : Prop where
  found : graph.labels[position]? = some label
  last : ∀ later, position < later → graph.labels[later]? ≠ some label

theorem isLastPosition_of_lastPosition? (h : graph.lastPosition? label = some position) :
    graph.IsLastPosition label position := by
  -- A label at the end is found first, so the induction takes the labels away from there.
  have hlabels : ∀ labels : List Label, ((labels.zipIdx.reverse.find? fun entry ↦
      entry.1 = label).map Prod.snd) = some position →
      labels[position]? = some label ∧ ∀ later, position < later → labels[later]? ≠ some label := by
    intro labels hfound
    induction labels using List.reverseRecOn with
    | nil => cases hfound
    | append_singleton labels other ih =>
      rw [List.zipIdx_append, List.reverse_append] at hfound
      change Option.map Prod.snd (List.find? _ ((other, 0 + labels.length) :: _)) = _ at hfound
      rw [List.find?_cons, Nat.zero_add] at hfound
      split at hfound
      case h_1 hother =>
        cases hfound
        refine ⟨of_decide_eq_true hother ▸ List.getElem?_concat_length, fun later hlater ↦ ?_⟩
        rw [List.getElem?_eq_none (by rw [List.length_append, List.length_singleton]; omega)]
        exact nofun
      case h_2 hother =>
        obtain ⟨hlabel, hlast⟩ := ih hfound
        obtain ⟨hlt, _⟩ := List.getElem?_eq_some_iff.mp hlabel
        refine ⟨(List.getElem?_append_left hlt).trans hlabel, fun later hlater hagain ↦ ?_⟩
        rcases Nat.lt_or_ge later labels.length with hbefore | hbehind
        · exact hlast later hlater ((List.getElem?_append_left hbefore).symm.trans hagain)
        · rw [List.getElem?_append_right hbehind] at hagain
          have hsame := List.mem_singleton.mp (List.mem_of_getElem? hagain)
          exact of_decide_eq_false hother hsame.symm
  obtain ⟨hfound, hlast⟩ := hlabels graph.labels h
  exact ⟨hfound, hlast⟩

theorem isSome_lastPosition? : (graph.lastPosition? label).isSome ↔ label ∈ graph.labels := by
  rw [lastPosition?, Option.isSome_map, List.find?_isSome, List.mem_iff_getElem?]
  constructor
  · rintro ⟨⟨_, position⟩, hmem, hlabel⟩
    have hposition := List.mem_zipIdx_iff_getElem?.mp (List.mem_reverse.mp hmem)
    exact ⟨position, of_decide_eq_true hlabel ▸ hposition⟩
  · rintro ⟨position, hposition⟩
    have hmem : (label, position) ∈ graph.labels.zipIdx :=
      List.mem_zipIdx_iff_getElem?.mpr hposition
    exact ⟨(label, position), List.mem_reverse.mpr hmem, decide_eq_true rfl⟩

/-- The edges whose ends both name labels. -/
def innerEdges (graph : Graph) : List Edge :=
  graph.edges.filter fun edge ↦ edge.source ∈ graph.labels ∧ edge.target ∈ graph.labels

theorem edge_ends_compile {settings : Settings} {draft : Draft}
    (h : edge ∈ (draft.compile settings).edges) :
    edge.source ∈ (draft.compile settings).labels ∧
      edge.target ∈ (draft.compile settings).labels := by
  obtain ⟨node, hnode, hedge⟩ := List.mem_flatMap.mp h
  constructor
  · rw [Node.source_of_mem_edges hedge]
    exact label_mem_labels hnode
  · have htarget := List.mem_map_of_mem (f := Edge.target) hedge
    rw [Node.map_target_edges] at htarget
    exact Draft.mem_labels_compile.mpr (Draft.has_of_mem_targets hnode htarget)

theorem innerEdges_compile (settings : Settings) (draft : Draft) :
    (draft.compile settings).innerEdges = (draft.compile settings).edges :=
  List.filter_eq_self.mpr fun _ h ↦ decide_eq_true (edge_ends_compile h)

theorem existsUnique_position_compile {settings : Settings} {draft : Draft}
    (h : label ∈ (draft.compile settings).labels) :
    ∃! position : Nat, (draft.compile settings).labels[position]? = some label := by
  obtain ⟨position, hposition⟩ := List.mem_iff_getElem?.mp h
  obtain ⟨hlt, _⟩ := List.getElem?_eq_some_iff.mp hposition
  refine ⟨position, hposition, ?_⟩
  intro other (hother : (draft.compile settings).labels[other]? = some label)
  have hsame := hposition.trans hother.symm
  exact ((List.getElem?_inj hlt (Draft.nodup_labels_compile settings draft)).mp hsame).symm

/-- A statement shows a node: it is named by its position, and it is red if nothing leads there. -/
def DrawsNode (graph : Graph) (entry : Node × Nat) (statement : Statement) : Prop :=
  ∃ label shape color, statement = .node (nodeName entry.2)
      [label, ⟨.bare "shape", .bare shape⟩, ⟨.bare "color", .bare color⟩] ∧
    label.Shows entry.1.shownCaption ∧ (color = "red" ↔ entry.1.label ∉ graph.reachable)

/-- A statement shows an edge between the last positions of its ends. -/
def DrawsEdge (graph : Graph) (edge : Edge) (statement : Statement) : Prop :=
  ∃ source target labels, statement = .edge (nodeName source) (nodeName target)
      (⟨.bare "style", .bare edge.kind.dotStyle⟩ :: labels) ∧
    graph.IsLastPosition edge.source source ∧ graph.IsLastPosition edge.target target ∧
    List.Forall₂ Attribute.Shows labels (edge.caption.map apostrophes).toList

def edgeStatement? (graph : Graph) (edge : Edge) : Option DotStatement :=
  (graph.lastPosition? edge.source).bind fun source ↦
    (graph.lastPosition? edge.target).bind fun target ↦
      some (.edge source target edge.kind.dotStyle (edge.caption.map escape))

theorem drawsNode (graph : Graph) (entry : Node × Nat) :
    graph.DrawsNode entry (DotStatement.node entry.2 entry.1.dotCaption entry.1.dotShape
      (entry.1.dotColor graph.reachable)).drawn :=
  ⟨_, _, _, rfl, ⟨_, rfl, entry.1.depicts_dotCaption⟩, Node.dotColor_eq_red_iff⟩

theorem drawsEdge {statement : DotStatement} (h : graph.edgeStatement? edge = some statement) :
    statement.IsSound ∧ graph.DrawsEdge edge statement.drawn := by
  obtain ⟨source, hsource, h⟩ := Option.bind_eq_some_iff.mp h
  obtain ⟨target, htarget, h⟩ := Option.bind_eq_some_iff.mp h
  cases h
  refine ⟨⟨edge.kind.isWord_dotStyle, ?_⟩, source, target, _, rfl,
    isLastPosition_of_lastPosition? hsource, isLastPosition_of_lastPosition? htarget, ?_⟩
  · intro text htext
    obtain ⟨caption, _, rfl⟩ := Option.map_eq_some_iff.mp htext
    exact ⟨_, depicts_escape caption⟩
  · cases edge.caption with
    | none => exact .nil
    | some caption => exact .cons ⟨_, rfl, depicts_escape caption⟩ .nil

theorem isSome_edgeStatement? : (graph.edgeStatement? edge).isSome ↔
    edge.source ∈ graph.labels ∧ edge.target ∈ graph.labels := by
  rw [← isSome_lastPosition?, ← isSome_lastPosition?, edgeStatement?]
  cases graph.lastPosition? edge.source with
  | none => simp
  | some source =>
    cases graph.lastPosition? edge.target with
    | none => simp
    | some target => simp

theorem edgeStatements_eq (graph : Graph) :
    graph.edgeStatements = graph.edges.filterMap graph.edgeStatement? := rfl

theorem forall₂_edgeStatements (graph : Graph) : List.Forall₂ graph.DrawsEdge graph.innerEdges
    (graph.edgeStatements.map DotStatement.drawn) := by
  rw [edgeStatements_eq, innerEdges]
  induction graph.edges with
  | nil => exact .nil
  | cons edge edges ih =>
    have hinner : (graph.edgeStatement? edge).isSome ↔ _ := isSome_edgeStatement?
    rw [List.filter_cons]
    cases hedge : graph.edgeStatement? edge with
    | none =>
      rw [hedge] at hinner
      have houter := mt (hinner.mpr ∘ of_decide_eq_true) Bool.false_ne_true
      rw [List.filterMap_cons_none hedge, if_neg houter]
      exact ih
    | some statement =>
      rw [hedge] at hinner
      rw [List.filterMap_cons_some hedge, if_pos (decide_eq_true (hinner.mp rfl)), List.map_cons]
      exact .cons (drawsEdge hedge).2 ih

theorem forall₂_nodeStatements (graph : Graph) :
    List.Forall₂ graph.DrawsNode graph.nodes.zipIdx
      (graph.nodeStatements.map DotStatement.drawn) := by
  rw [nodeStatements, List.map_map, List.forall₂_map_right_iff]
  exact List.forall₂_same.mpr fun entry _ ↦ graph.drawsNode entry

theorem isSound_of_mem_nodeStatements {statement : DotStatement}
    (h : statement ∈ graph.nodeStatements) : statement.IsSound := by
  obtain ⟨⟨node, position⟩, _, rfl⟩ := List.mem_map.mp h
  exact ⟨⟨_, node.depicts_dotCaption⟩, node.isWord_dotShape, node.isWord_dotColor _⟩

theorem isSound_of_mem_edgeStatements {statement : DotStatement}
    (h : statement ∈ graph.edgeStatements) : statement.IsSound := by
  obtain ⟨edge, _, hedge⟩ := List.mem_filterMap.mp h
  exact (drawsEdge hedge).1

theorem drawing?_dot_eq (graph : Graph) : drawing? graph.dot = some ⟨.bare "LabelGraph",
    .setting (.bare "rankdir") (.bare "TB") ::
      .defaults (.bare "node") [⟨.bare "shape", .bare "box"⟩] ::
        (graph.nodeStatements.map DotStatement.drawn ++
          graph.edgeStatements.map DotStatement.drawn)⟩ := by
  apply Drawing.drawing?_of_run?
  · have hhead : run? .blank
        "digraph LabelGraph \x7b\n    rankdir=TB;\n    node [shape=box];\n\n".toList =
        some (.name (.bare "digraph") :: .name (.bare "LabelGraph") :: .mark '{' ::
          ((Statement.setting (.bare "rankdir") (.bare "TB")).tokens ++ [.mark ';'] ++
          ((Statement.defaults (.bare "node") [⟨.bare "shape", .bare "box"⟩]).tokens ++
            [.mark ';'])), .blank) := by decide +kernel
    have hnodes := DotStatement.run?_texts fun _ (h : _ ∈ graph.nodeStatements) ↦
      isSound_of_mem_nodeStatements h
    have hgap : run? .blank "\n".toList = some ([], .blank) := rfl
    have hedges := DotStatement.run?_texts fun _ (h : _ ∈ graph.edgeStatements) ↦
      isSound_of_mem_edgeStatements h
    have hend : run? .blank "\x7d\n".toList = some ([.mark '}'], .blank) := rfl
    have htext := run?_append hhead
      (run?_append hnodes (run?_append hgap (run?_append hedges hend)))
    change run? .blank ("digraph LabelGraph \x7b\n    rankdir=TB;\n    node [shape=box];\n\n" ++
      String.join (graph.nodeStatements.map DotStatement.text) ++ "\n" ++
      String.join (graph.edgeStatements.map DotStatement.text) ++ "\x7d\n").toList = _
    simp only [String.toList_append, List.append_assoc]
    rw [Drawing.tokens, List.flatMap_cons, List.flatMap_cons, List.flatMap_append]
    simp only [List.append_assoc]
    exact htext
  · intro statement hmem
    simp only [List.mem_cons, List.mem_append, List.mem_map] at hmem
    rcases hmem with rfl | rfl | ⟨_, _, rfl⟩ | ⟨_, _, rfl⟩
    · trivial
    · exact .tail _ (.head _)
    · exact DotStatement.isSound_drawn _
    · exact DotStatement.isSound_drawn _

/-- Whatever the titles, ids and captions are, the text is one drawing with a statement for each
node and one for each edge between labels of the graph, in order, and no other but the two settings
in front. A compiled graph has no other edges, and no label of it stands in two places. -/
theorem drawing?_dot (graph : Graph) :
    (∃ nodes edges, drawing? graph.dot = some ⟨.bare "LabelGraph",
        .setting (.bare "rankdir") (.bare "TB") ::
          .defaults (.bare "node") [⟨.bare "shape", .bare "box"⟩] :: (nodes ++ edges)⟩ ∧
      List.Forall₂ graph.DrawsNode graph.nodes.zipIdx nodes ∧
      List.Forall₂ graph.DrawsEdge graph.innerEdges edges) ∧
    ∀ settings draft, graph = Draft.compile settings draft →
      graph.innerEdges = graph.edges ∧ ∀ edge ∈ graph.edges,
        (∃! position : Nat, graph.labels[position]? = some edge.source) ∧
          ∃! position : Nat, graph.labels[position]? = some edge.target := by
  constructor
  · exact ⟨_, _, graph.drawing?_dot_eq, graph.forall₂_nodeStatements, graph.forall₂_edgeStatements⟩
  · rintro settings draft rfl
    refine ⟨innerEdges_compile settings draft, fun edge hedge ↦ ?_⟩
    obtain ⟨hsource, htarget⟩ := edge_ends_compile hedge
    exact ⟨existsUnique_position_compile hsource, existsUnique_position_compile htarget⟩

end Graph

end StoryGraph
