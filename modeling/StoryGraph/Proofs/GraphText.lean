import StoryGraph.Graph.Envelope
import StoryGraph.Proofs.Documents

namespace StoryGraph

namespace Json

variable {α : Type} {members : Members} {name name' : String} {value : Json} {depth : Nat}
  {form : Form} {decode : Json → Option α} {write : α → Json}

namespace Members

@[simp]
theorem all_nil : all [] name = [] := by
  simp [all]

theorem all_cons_self : all ((name, value) :: members) name = value :: members.all name := by
  simp [all]

@[simp]
theorem all_cons_of_ne (h : name' ≠ name) :
    all ((name', value) :: members) name = members.all name := by
  simp [all, h]

@[simp]
theorem field_cons_self (h : members.all name = []) :
    field ((name, value) :: members) name decode = decode value := by
  rw [field, all_cons_self, h]

@[simp]
theorem field_cons_of_ne (h : name' ≠ name) :
    field ((name', value) :: members) name decode = members.field name decode := by
  rw [field, field, all_cons_of_ne h]

@[simp]
theorem optional_nil : optional [] name decode = some none := rfl

@[simp]
theorem optional_cons_of_ne (h : name' ≠ name) :
    optional ((name', value) :: members) name decode = members.optional name decode := by
  rw [optional, optional, all_cons_of_ne h]

/-- What is written as null where there is nothing is read as a field that may be null. -/
theorem optional_cons_getD {item : Option α} (hnull : ∀ a, write a ≠ null)
    (hdecode : ∀ a, decode (write a) = some a) (h : members.all name = []) :
    optional ((name, (item.map write).getD null) :: members) name decode = some item := by
  rw [optional, all_cons_self, h]
  cases item with
  | none => rfl
  | some a => simp [hnull a, hdecode a]

@[simp]
theorem optional_cons_ofText? {text : Option String} (h : members.all name = []) :
    optional ((name, ofText? text) :: members) name string? = some text := by
  have hwritten : ofText? text = (text.map string).getD null := by
    cases text <;> rfl
  rw [hwritten, optional_cons_getD nofun string?_string h]

end Members

theorem list?_array_map (h : ∀ a, decode (write a) = some a) (items : List α) :
    list? decode (array (items.map write)) = some items := by
  change (items.map write).mapM decode = some items
  induction items with
  | nil => rfl
  | cons a items ih => simp [h, ih]

theorem readable_ofText? {text : Option String} : Readable depth form (ofText? text) := by
  cases text <;> cases depth <;> trivial

theorem readable_nat {n : Nat} (h : n ≤ Numeric.greatestWord) : Readable depth form (nat n) := by
  refine readable_number.mpr ⟨?_, Int.ofNat_le.mpr h⟩
  omega

end Json

open Json (Form Members Readable AllReadable)

@[simp]
theorem Label.ofJson?_toJson (label : Label) : ofJson? label.toJson = some label := by
  cases label <;> simp [toJson, ofJson?, Json.members?, ofMembers?, Json.tag?]

@[simp]
theorem Label.ofTarget?_toJson (label : Label) : ofTarget? label.toJson = some label := by
  cases label <;> simp [toJson, ofTarget?, Json.members?, ofMembers?, Json.tag?]

theorem Line.ofJson?_toJson (line : Line) : ofJson? line.toJson = some line := by
  simp [toJson, ofJson?, Json.members?, ofMembers?]

@[simp]
theorem Content.ofJson?_toJson (content : Content) : ofJson? content.toJson = some content := by
  cases content <;>
    simp [toJson, ofJson?, Json.members?, ofMembers?, CoverCard.fields, CoverCard.ofMembers?,
      SceneCard.fields, SceneCard.ofMembers?, EndingCard.fields, EndingCard.ofMembers?,
      Json.list?_array_map Line.ofJson?_toJson]

theorem Branch.ofJson?_toJson (branch : Branch) : ofJson? branch.toJson = some branch := by
  simp [toJson, ofJson?, Json.members?, ofMembers?]

@[simp]
theorem Continuation.ofJson?_toJson (continuation : Continuation) :
    ofJson? continuation.toJson = some continuation := by
  cases continuation <;>
    simp [toJson, ofJson?, Json.members?, ofMembers?, Json.list?_array_map Branch.ofJson?_toJson]

theorem Node.ofJson?_toJson (node : Node) : ofJson? node.toJson = some node := by
  simp [toJson, ofJson?, Json.members?, ofMembers?]

@[simp]
theorem Graph.ofJson?_toJson (graph : Graph) : ofJson? graph.toJson = some graph := by
  have hstart : Members.optional [("start", (graph.start.map Label.toJson).getD .null)] "start"
      Label.ofJson? = some graph.start :=
    Members.optional_cons_getD (fun label ↦ by cases label <;> nofun) Label.ofJson?_toJson
      Members.all_nil
  simp [toJson, ofJson?, Json.members?, ofMembers?, hstart,
    Json.list?_array_map Node.ofJson?_toJson]

theorem Envelope.ofJson?_toJson (envelope : Envelope) (h : envelope.version < 0x10000) :
    ofJson? envelope.toJson = some envelope := by
  simp [toJson, ofJson?, Json.members?, ofMembers?, version?, Option.filter, h]

section Readable

variable {depth : Nat} {form : Form}

theorem Label.readable_toJson (hkind : form.member? "kind" = some .whole)
    (hid : form.member? "id" = some .whole) (label : Label) :
    Readable (depth + 1) form label.toJson := by
  cases label <;>
    simp only [toJson, Json.readable_object, Json.allReadable_cons hkind, Json.allReadable_cons hid,
      Json.allReadable_nil, Json.readable_string, and_self]

theorem Line.readable_toJson (hspeaker : form.member? "speaker" = some .whole)
    (htext : form.member? "text" = some .whole) (line : Line) :
    Readable (depth + 1) form line.toJson := by
  simp only [toJson, Json.readable_object, Json.allReadable_cons hspeaker,
    Json.allReadable_cons htext, Json.allReadable_nil, Json.readable_ofText?, Json.readable_string,
    and_self]

theorem Content.readable_toJson (content : Content) :
    Readable (depth + 3) .whole content.toJson := by
  have hlines : ∀ lines : List Line, Readable (depth + 2) .whole (.array (lines.map Line.toJson)) :=
    fun _ ↦ Json.readable_array_map fun line _ ↦ line.readable_toJson rfl rfl
  cases content <;>
    simp only [toJson, CoverCard.fields, SceneCard.fields, EndingCard.fields, Json.readable_object,
      Json.allReadable_whole_cons, Json.allReadable_nil, Json.readable_ofText?,
      Json.readable_string, hlines, and_self]

theorem Branch.readable_toJson {branch : Branch} (h : branch.index ≤ Numeric.greatestWord) :
    Readable (depth + 2) .whole branch.toJson := by
  have htarget : Readable (depth + 1) .whole branch.target.toJson :=
    branch.target.readable_toJson rfl rfl
  simp only [toJson, Json.readable_object, Json.allReadable_whole_cons, Json.allReadable_nil,
    Json.readable_nat h, Json.readable_string, htarget, and_self]

def Continuation.indices : Continuation → List Nat
  | menu branches => branches.map Branch.index
  | afterLastLine _ | proceed _ _ | terminal => []

theorem Continuation.readable_toJson {continuation : Continuation}
    (h : ∀ index ∈ continuation.indices, index ≤ Numeric.greatestWord) :
    Readable (depth + 4) .whole continuation.toJson := by
  have htarget : ∀ target : Label, Readable (depth + 3) .whole target.toJson :=
    fun target ↦ target.readable_toJson rfl rfl
  cases continuation with
  | afterLastLine target =>
    simp only [toJson, Json.readable_object, Json.allReadable_whole_cons, Json.allReadable_nil,
      Json.readable_string, htarget, and_self]
  | proceed caption target =>
    simp only [toJson, Json.readable_object, Json.allReadable_whole_cons, Json.allReadable_nil,
      Json.readable_string, htarget, and_self]
  | menu branches =>
    have hbranches : Readable (depth + 3) .whole (.array (branches.map Branch.toJson)) :=
      Json.readable_array_map fun branch hbranch ↦
        Branch.readable_toJson (h branch.index (List.mem_map_of_mem hbranch))
    simp only [toJson, Json.readable_object, Json.allReadable_whole_cons, Json.allReadable_nil,
      Json.readable_string, hbranches, and_self]
  | terminal =>
    simp only [toJson, Json.readable_object, Json.allReadable_whole_cons, Json.allReadable_nil,
      Json.readable_string, and_self]

/-- The choices are numbered by integers of 64 bits. -/
def Graph.Indexed (graph : Graph) : Prop :=
  ∀ node ∈ graph.nodes, ∀ index ∈ node.continuation.indices, index ≤ Numeric.greatestWord

instance (graph : Graph) : Decidable graph.Indexed :=
  inferInstanceAs (Decidable (∀ node ∈ graph.nodes, ∀ index ∈ node.continuation.indices,
    index ≤ Numeric.greatestWord))

theorem Node.readable_toJson {node : Node}
    (h : ∀ index ∈ node.continuation.indices, index ≤ Numeric.greatestWord) :
    Readable (depth + 5) Node.form node.toJson := by
  have hcontinuation : Readable (depth + 4) .whole node.continuation.toJson :=
    Continuation.readable_toJson h
  refine (Json.allReadable_cons rfl).mpr ⟨node.label.readable_toJson rfl rfl, ?_⟩
  refine (Json.allReadable_cons rfl).mpr ⟨node.content.readable_toJson, ?_⟩
  exact (Json.allReadable_cons rfl).mpr ⟨hcontinuation, Json.allReadable_nil⟩

theorem Graph.Indexed.readable_toJson {graph : Graph} (h : graph.Indexed) :
    Readable (depth + 7) Graph.form graph.toJson := by
  have hnodes : Readable (depth + 6) (.list Node.form) (.array (graph.nodes.map Node.toJson)) :=
    Json.readable_array_map fun node hnode ↦ Node.readable_toJson (h node hnode)
  have hstart : Readable (depth + 6) Label.form ((graph.start.map Label.toJson).getD .null) := by
    cases graph.start with
    | none => trivial
    | some label => exact label.readable_toJson rfl rfl
  refine (Json.allReadable_cons rfl).mpr ⟨hnodes, ?_⟩
  exact (Json.allReadable_cons rfl).mpr ⟨hstart, Json.allReadable_nil⟩

theorem Graph.Indexed.readable_envelope {graph : Graph} (h : graph.Indexed) :
    Readable (depth + 8) Envelope.form graph.envelope.toJson := by
  have hversion : formatVersion ≤ Numeric.greatestWord := by decide
  refine (Json.allReadable_cons rfl).mpr ⟨Json.readable_nat hversion, ?_⟩
  refine (Json.allReadable_cons rfl).mpr ⟨Json.readable_string, ?_⟩
  exact (Json.allReadable_cons rfl).mpr ⟨h.readable_toJson, Json.allReadable_nil⟩

end Readable

def Envelope.read? (text : String) : Option Envelope :=
  (Json.parseAs form text).toOption.bind ofJson?

namespace Graph

def hashed (graph : Graph) : ByteArray := graph.toJson.compact.toUTF8

def read? (bytes : ByteArray) : Option Graph :=
  (String.fromUTF8? bytes).bind fun text ↦ (Json.parseAs form text).toOption.bind ofJson?

variable {graph : Graph}

theorem Indexed.read?_hashed (h : graph.Indexed) : read? graph.hashed = some graph := by
  have htext : String.fromUTF8? graph.hashed = some graph.toJson.compact :=
    dif_pos graph.toJson.compact.isValidUTF8
  rw [read?, htext, Option.bind_some, Json.parseAs_compact h.readable_toJson]
  exact graph.ofJson?_toJson

theorem Indexed.read?_envelope (h : graph.Indexed) :
    Envelope.read? graph.text = some graph.envelope := by
  have hversion : formatVersion < 0x10000 := by decide
  rw [Envelope.read?, text, Json.parseAs_pretty h.readable_envelope]
  exact graph.envelope.ofJson?_toJson hversion

theorem read?_empty : read? .empty = none := rfl

/-- A graph is read back from its document and from the bytes that its fingerprint is taken of. So
those bytes are never empty, no other graph has them, and a graph that was read has the fingerprint
that stands beside it. -/
theorem read?_text (h : graph.Indexed) :
    Envelope.read? graph.text = some ⟨formatVersion, graph.fingerprint, graph⟩ ∧
      graph.fingerprint = String.ofList ((Digest.sha256 graph.hashed.toList).flatMap fun word ↦
        Numeric.hexPadded 8 word.toNat) ∧
      read? graph.hashed = some graph ∧ graph.hashed ≠ .empty ∧
      (∀ other : Graph, other.Indexed → other.hashed = graph.hashed → other = graph) ∧
      ∀ envelope, Envelope.read? graph.text = some envelope →
        envelope.graph.fingerprint = envelope.fingerprint := by
  have henvelope : Envelope.read? graph.text = some graph.envelope := h.read?_envelope
  have hhashed : read? graph.hashed = some graph := h.read?_hashed
  refine ⟨henvelope, rfl, hhashed, ?_, ?_, ?_⟩
  · intro hempty
    rw [hempty, read?_empty] at hhashed
    cases hhashed
  · intro other hother heq
    have hread : some other = some graph := by
      rw [← hother.read?_hashed, heq, hhashed]
    exact Option.some.inj hread
  · intro envelope hread
    obtain rfl : graph.envelope = envelope := Option.some.inj (henvelope.symm.trans hread)
    rfl

/-- A graph that no compilation gives: a repeated label, cards that belong to other labels, choices
numbered at will, targets that name no label, and texts that have to be escaped. -/
def danglingGraph : Graph where
  nodes := [
    ⟨.scene "cover", .cover ⟨none, "\"", "", "\n", "\\"⟩,
      .menu [⟨0xFFFFFFFFFFFFFFFF, "", .scene ""⟩, ⟨7, "é", .cover⟩, ⟨7, "é", .cover⟩]⟩,
    ⟨.ending, .scene ⟨some "", none, [⟨none, ""⟩, ⟨some "\u0001", "😀"⟩]⟩,
      .proceed "" (.scene "nowhere")⟩,
    ⟨.scene "cover", .ending ⟨some "e", "", "null", "\""⟩, .afterLastLine .ending⟩,
    ⟨.scene "", .scene ⟨none, none, []⟩, .terminal⟩]
  start := some (.scene "cover\"")

theorem read?_text_danglingGraph :
    danglingGraph.Indexed ∧
      Envelope.read? danglingGraph.text =
        some ⟨formatVersion, danglingGraph.fingerprint, danglingGraph⟩ ∧
      read? danglingGraph.hashed = some danglingGraph ∧
      Graph.hashed ⟨danglingGraph.nodes, none⟩ ≠ danglingGraph.hashed := by
  have h : danglingGraph.Indexed := by decide
  obtain ⟨henvelope, _, hhashed, _, honly, _⟩ := read?_text h
  refine ⟨h, henvelope, hhashed, ?_⟩
  intro heq
  have hsame : ⟨danglingGraph.nodes, none⟩ = danglingGraph := honly _ (by decide) heq
  cases congrArg Graph.start hsame

end Graph

end StoryGraph
