import Mathlib.Order.Bounds.Basic
import StoryGraph.Proofs.Continuations
import StoryGraph.Proofs.Findings

namespace StoryGraph

section Longest

variable {numbers : List Nat} {n limit : Nat}

theorem foldl_max_eq_iff :
    n = numbers.foldl max 0 ↔ n ∈ 0 :: numbers ∧ ∀ m ∈ 0 :: numbers, m ≤ n := by
  rw [← List.max?_eq_some_iff, List.max?_cons', Option.some.injEq, eq_comm]

theorem foldl_max_eq_iff_isGreatest (h : 0 < n) :
    n = numbers.foldl max 0 ↔ IsGreatest {m | m ∈ numbers} n := by
  have hne : n ≠ 0 := by omega
  rw [foldl_max_eq_iff]
  simp [IsGreatest, upperBounds, hne]

theorem lt_foldl_max_iff : limit < numbers.foldl max 0 ↔ ∃ n ∈ numbers, limit < n := by
  obtain ⟨hmem, hle⟩ := (@foldl_max_eq_iff numbers _).mp rfl
  constructor
  · intro h
    obtain hzero | hmem := List.mem_cons.mp hmem
    · omega
    · exact ⟨_, hmem, h⟩
  · rintro ⟨n, hn, hlt⟩
    exact hlt.trans_le (hle n (List.mem_cons_of_mem 0 hn))

end Longest

namespace Issue

inductive Check where
  | empty
  | lines
  | choices
  | texts
  | id
  deriving DecidableEq

def check? : Issue → Option (Check × String)
  | emptyScene scene => some (.empty, scene)
  | tooManyLines scene .. => some (.lines, scene)
  | tooManyChoices scene .. => some (.choices, scene)
  | textTooLong scene .. => some (.texts, scene)
  | idTooLong id _ => some (.id, id)
  | _ => none

theorem key_of_check? {issue : Issue} {check : Check} {id : String}
    (h : issue.check? = some (check, id)) :
    (issue.part = .scenes ∨ issue.part = .ids) ∧ issue.subject = id := by
  cases issue <;> cases h <;> simp [part, subject]

end Issue

namespace Draft

open Occurrence (IsLast)

variable {settings : Settings} {draft : Draft} {id : String} {position : Nat} {scene : Scene}
  {issue : Issue} {check : Issue.Check} {node : Node}

def Fails (settings : Settings) (id : String) (scene : Scene) : Issue.Check → Prop
  | .empty => scene.dialogue = [] ∧ scene.choices = []
  | .lines => settings.limits.maxLinesPerScene < scene.dialogue.length
  | .choices => settings.limits.maxChoicesPerScene < scene.choices.length
  | .texts => settings.limits.maxTextLength < scene.longest
  | .id => settings.limits.maxIdLength < id.utf8ByteSize

def failure (settings : Settings) (id : String) (scene : Scene) : Issue.Check → Issue
  | .empty => .emptyScene id
  | .lines => .tooManyLines id scene.dialogue.length settings.limits.maxLinesPerScene
  | .choices => .tooManyChoices id scene.choices.length settings.limits.maxChoicesPerScene
  | .texts => .textTooLong id scene.longest settings.limits.maxTextLength
  | .id => .idTooLong id settings.limits.maxIdLength

theorem mem_lint_iff_of_check? (hlast : IsLast draft.named position id scene)
    (h : issue.check? = some (check, id)) :
    issue ∈ (draft.lint settings).issues ↔
      Fails settings id scene check ∧ issue = failure settings id scene check := by
  cases issue with
  | emptyScene _ | tooManyLines _ _ _ | tooManyChoices _ _ _ | textTooLong _ _ _ =>
    cases h
    refine (mem_issues_lint_iff_of_scenes rfl).trans (hlast.exists_and_iff.trans ?_)
    rw [mem_sceneIssues_iff]
    simp [Fails, failure, Issue.subject]
  | idTooLong id limit =>
    cases h
    have hmem : id ∈ draft.ids := hlast.name_mem
    rw [mem_issues_lint_iff_of_ids rfl, mem_idIssues_iff]
    simp [Fails, failure, Issue.subject, hmem]
  | _ => cases h

theorem lt_and_eq_iff {count limit found bound : Nat} :
    bound < found ∧ count = found ∧ limit = bound ↔
      count = found ∧ limit = bound ∧ limit < count := by
  constructor
  · rintro ⟨h, rfl, rfl⟩
    exact ⟨rfl, rfl, h⟩
  · rintro ⟨rfl, rfl, h⟩
    exact ⟨h, rfl, rfl⟩

theorem emptyScene_mem_lint_iff (hlast : IsLast draft.named position id scene) :
    .emptyScene id ∈ (draft.lint settings).issues ↔ scene.dialogue = [] ∧ scene.choices = [] := by
  rw [mem_lint_iff_of_check? hlast rfl]
  simp [Fails, failure]

theorem tooManyLines_mem_lint_iff (hlast : IsLast draft.named position id scene)
    {count limit : Nat} : .tooManyLines id count limit ∈ (draft.lint settings).issues ↔
      count = scene.dialogue.length ∧ limit = settings.limits.maxLinesPerScene ∧ limit < count := by
  rw [mem_lint_iff_of_check? hlast rfl, ← lt_and_eq_iff]
  simp [Fails, failure]

theorem tooManyChoices_mem_lint_iff (hlast : IsLast draft.named position id scene)
    {count limit : Nat} : .tooManyChoices id count limit ∈ (draft.lint settings).issues ↔
      count = scene.choices.length ∧ limit = settings.limits.maxChoicesPerScene ∧
        limit < count := by
  rw [mem_lint_iff_of_check? hlast rfl, ← lt_and_eq_iff]
  simp [Fails, failure]

theorem textTooLong_mem_lint_iff (hlast : IsLast draft.named position id scene)
    {length limit : Nat} : .textTooLong id length limit ∈ (draft.lint settings).issues ↔
      length = scene.longest ∧ limit = settings.limits.maxTextLength ∧ limit < length := by
  rw [mem_lint_iff_of_check? hlast rfl, ← lt_and_eq_iff]
  simp [Fails, failure]

theorem idTooLong_mem_lint_iff (hlast : IsLast draft.named position id scene) {limit : Nat} :
    .idTooLong id limit ∈ (draft.lint settings).issues ↔
      limit = settings.limits.maxIdLength ∧ limit < id.utf8ByteSize := by
  rw [mem_lint_iff_of_check? hlast rfl]
  simp only [Fails, failure, Issue.idTooLong.injEq, true_and]
  constructor
  · rintro ⟨h, rfl⟩
    exact ⟨rfl, h⟩
  · rintro ⟨rfl, h⟩
    exact ⟨h, rfl⟩

/-- The lengths in bytes of the texts of a scene: the lines that its node shows, and the labels that
were written on its choices. -/
def textLengths (node : Node) (scene : Scene) : Set Nat :=
  {n | (∃ line ∈ node.content.lines, line.text.utf8ByteSize = n) ∨
    ∃ choice ∈ scene.choices, ∃ label, choice.label = some label ∧ label.utf8ByteSize = n}

/-- What is reported of the scene under an id is what its node shows, beside the labels of the
choices that were last written there. -/
structure Measured (settings : Settings) (draft : Draft) (id : String) (node : Node)
    (scene : Scene) : Prop where
  empty : .emptyScene id ∈ (draft.lint settings).issues ↔
    ∃ target, node.continuation = .proceed settings.continueCaption target
  lines : ∀ count limit, .tooManyLines id count limit ∈ (draft.lint settings).issues ↔
    count = node.content.lines.length ∧ limit = settings.limits.maxLinesPerScene ∧ limit < count
  choices : ∀ count limit, .tooManyChoices id count limit ∈ (draft.lint settings).issues ↔
    ∃ branches, node.continuation = .menu branches ∧ count = branches.length ∧
      limit = settings.limits.maxChoicesPerScene ∧ limit < count
  texts : ∀ length limit, .textTooLong id length limit ∈ (draft.lint settings).issues ↔
    IsGreatest (textLengths node scene) length ∧ limit = settings.limits.maxTextLength ∧
      limit < length
  exceeding : (∃ length limit, .textTooLong id length limit ∈ (draft.lint settings).issues) ↔
    ∃ n ∈ textLengths node scene, settings.limits.maxTextLength < n
  ids : ∀ limit, .idTooLong id limit ∈ (draft.lint settings).issues ↔
    limit = settings.limits.maxIdLength ∧ limit < id.utf8ByteSize

/-- A missing text shows as the empty one. Apart from that the same lengths are compared. -/
theorem mem_textLengths_iff (hlines : node.content.lines = scene.dialogue.map Line.normalize)
    {n : Nat} (h : 0 < n) :
    n ∈ textLengths node scene ↔ n ∈ (scene.dialogue.filterMap Line.text ++
      scene.choices.filterMap Choice.label).map String.utf8ByteSize := by
  have hline : ∀ line : Line, (line.text.getD "").utf8ByteSize = n ↔
      ∃ text, line.text = some text ∧ text.utf8ByteSize = n := by
    intro line
    cases line.text with
    | none => simp [h.ne]
    | some text => simp
  have hshown : (∃ line ∈ node.content.lines, line.text.utf8ByteSize = n) ↔
      ∃ line ∈ scene.dialogue, ∃ text, line.text = some text ∧ text.utf8ByteSize = n := by
    simp only [hlines, List.mem_map, exists_exists_and_eq_and, ← hline]
    rfl
  rw [textLengths, Set.mem_ofPred_eq, hshown]
  simp only [List.map_append, List.mem_append, List.mem_map, List.mem_filterMap]
  grind

theorem longest_eq_iff (hlines : node.content.lines = scene.dialogue.map Line.normalize) {n : Nat}
    (h : 0 < n) : n = scene.longest ↔ IsGreatest (textLengths node scene) n := by
  rw [Scene.longest, foldl_max_eq_iff_isGreatest h]
  apply and_congr (mem_textLengths_iff hlines h).symm
  apply forall_congr'
  intro m
  rcases Nat.eq_zero_or_pos m with rfl | hm
  · simp
  · rw [Set.mem_ofPred_eq, mem_textLengths_iff hlines hm]

theorem lt_longest_iff (hlines : node.content.lines = scene.dialogue.map Line.normalize)
    {limit : Nat} : limit < scene.longest ↔ ∃ n ∈ textLengths node scene, limit < n := by
  rw [Scene.longest, lt_foldl_max_iff]
  apply exists_congr
  intro n
  apply and_congr_left
  intro hlt
  exact (mem_textLengths_iff hlines (Nat.zero_lt_of_lt hlt)).symm

theorem sceneContinuation_eq_proceed_iff (settings : Settings) (draft : Draft) (position : Nat)
    (id : String) : (∃ target, (draft.normalize settings).sceneContinuation
        (draft.scriptScene settings position id scene) =
          .proceed settings.continueCaption target) ↔
      scene.dialogue = [] ∧ scene.choices = [] := by
  rw [sceneContinuation_normalize]
  by_cases hchoices : scene.choices = [] <;> by_cases hdialogue : scene.dialogue = [] <;>
    simp [hchoices, hdialogue]

/-- There is a menu if and only if there are choices, and it has as many branches. -/
theorem sceneContinuation_eq_menu_iff (settings : Settings) (draft : Draft) (position : Nat)
    (id : String) {count : Nat} (h : 0 < count) :
    (∃ branches, (draft.normalize settings).sceneContinuation
        (draft.scriptScene settings position id scene) = .menu branches ∧
          count = branches.length) ↔ count = scene.choices.length := by
  rw [sceneContinuation_normalize]
  by_cases hchoices : scene.choices = []
  · have hne : count ≠ 0 := by omega
    by_cases hdialogue : scene.dialogue = [] <;> simp [hchoices, hdialogue, hne]
  · simp [hchoices]

theorem measured_of_isLast (settings : Settings) (hlast : IsLast draft.named position id scene)
    (hnode : (draft.compile settings).get? (.scene id) = some node) :
    draft.Measured settings id node scene := by
  cases (get?_scene_compile settings hlast).symm.trans hnode
  have hlines : ((draft.normalize settings).sceneNode
      (draft.scriptScene settings position id scene)).content.lines =
        scene.dialogue.map Line.normalize := rfl
  refine ⟨?_, ?_, ?_, ?_, ?_, fun limit ↦ idTooLong_mem_lint_iff hlast⟩
  · rw [emptyScene_mem_lint_iff hlast]
    exact (sceneContinuation_eq_proceed_iff settings draft position id).symm
  · intro count limit
    rw [tooManyLines_mem_lint_iff hlast, hlines, List.length_map]
  · intro count limit
    rw [tooManyChoices_mem_lint_iff hlast]
    simp only [← and_assoc, exists_and_right]
    rw [and_assoc, and_assoc]
    apply and_congr_left
    intro hlimit
    exact (sceneContinuation_eq_menu_iff settings draft position id
      (Nat.zero_lt_of_lt hlimit.2)).symm
  · intro length limit
    rw [textTooLong_mem_lint_iff hlast]
    apply and_congr_left
    intro hlimit
    exact longest_eq_iff hlines (Nat.zero_lt_of_lt hlimit.2)
  · rw [← lt_longest_iff hlines]
    simp only [textTooLong_mem_lint_iff hlast]
    constructor
    · rintro ⟨_, _, rfl, rfl, h⟩
      exact h
    · intro h
      exact ⟨_, _, rfl, rfl, h⟩

theorem exists_isLast_of_check? (hissue : issue ∈ (draft.lint settings).issues)
    (h : issue.check? = some (check, id)) :
    ∃ position scene, IsLast draft.named position id scene := by
  obtain ⟨hpart, rfl⟩ := Issue.key_of_check? h
  rcases hpart with hpart | hpart
  · obtain ⟨position, scene, hlast, _⟩ := (mem_issues_lint_iff_of_scenes hpart).mp hissue
    exact ⟨position, scene, hlast⟩
  · exact Occurrence.exists_isLast ((mem_issues_lint_iff_of_ids hpart).mp hissue).1

theorem nodup_filterMap_check? (settings : Settings) (draft : Draft) :
    ((draft.lint settings).issues.filterMap Issue.check?).Nodup := by
  apply List.pairwise_filterMap.mpr
  apply List.Pairwise.imp_of_mem _ (nodup_issues_lint settings draft)
  -- The check and the id decide what the finding is, since only one scene is last under the id.
  rintro issue issue' hissue hissue' hne ⟨check, id⟩ hcheck _ hcheck' rfl
  obtain ⟨position, scene, hlast⟩ := exists_isLast_of_check? hissue hcheck
  have heq := ((mem_lint_iff_of_check? hlast hcheck).mp hissue).2
  have heq' := ((mem_lint_iff_of_check? hlast hcheck').mp hissue').2
  exact hne (heq.trans heq'.symm)

/-- The findings on single scenes agree with the graph. Of each scene of the graph is reported that
it has only the control that was put into it, and how many lines, branches and bytes of text it has
beyond the budgets. Nothing is reported twice by one check, nor of an id that is no scene there. -/
theorem lint_measures (settings : Settings) (draft : Draft) :
    (∀ id node, (draft.compile settings).get? (.scene id) = some node →
        ∃ position scene, IsLast draft.named position id scene ∧
          draft.Measured settings id node scene) ∧
      ((draft.lint settings).issues.filterMap Issue.check?).Nodup ∧
      ∀ check id, (check, id) ∈ (draft.lint settings).issues.filterMap Issue.check? →
        .scene id ∈ (draft.compile settings).labels := by
  refine ⟨?_, nodup_filterMap_check? settings draft, ?_⟩
  · intro id node hnode
    obtain ⟨hmem, hlabel⟩ := Graph.mem_of_get?_eq_some hnode
    obtain ⟨position, scene, hlast, _⟩ := node_of_label_eq_scene hmem hlabel
    exact ⟨position, scene, hlast, measured_of_isLast settings hlast hnode⟩
  · intro check id hcheck
    obtain ⟨issue, hissue, hcheck⟩ := List.mem_filterMap.mp hcheck
    obtain ⟨_, _, hlast⟩ := exists_isLast_of_check? hissue hcheck
    exact mem_labels_compile.mpr hlast.name_mem

def oneChoice : Settings := { limits := { maxChoicesPerScene := 1 } }

theorem lint_measures_rewrittenHub :
    .tooManyChoices "hub" 2 1 ∈ (rewrittenHub.lint oneChoice).issues ∧
      .emptyScene "shop" ∈ (rewrittenHub.lint oneChoice).issues ∧
      .emptyScene "hub" ∉ (rewrittenHub.lint oneChoice).issues := by
  obtain ⟨hnodes, _⟩ := lint_measures oneChoice rewrittenHub
  obtain ⟨_, _, _, hhub⟩ := hnodes "hub" _ rfl
  obtain ⟨_, _, _, hshop⟩ := hnodes "shop" _ rfl
  refine ⟨(hhub.choices 2 1).mpr ⟨_, rfl, rfl, rfl, by decide⟩, hshop.empty.mpr ⟨_, rfl⟩, ?_⟩
  intro hempty
  obtain ⟨_, htarget⟩ := hhub.empty.mp hempty
  cases htarget

end Draft

end StoryGraph
