import StoryGraph.Command.Arguments
import StoryGraph.Proofs.Lexemes

namespace StoryGraph.Command

/-- A word that is neither empty nor taken for an option. A dash alone is a word. -/
structure IsWord (word : String) : Prop where
  ne_empty : word ≠ ""
  notOption : ∀ c cs, word.toList ≠ '-' :: c :: cs

def outputArguments : Option String → List String
  | some path => ["--output", path]
  | none => []

def Task.arguments : Task → List String
  | validate script strict => script :: if strict then ["--strict"] else []
  | compile script output => script :: outputArguments (some output)
  | dot script output => script :: outputArguments output
  | trace script steps output => script :: "--steps" :: steps.repr :: outputArguments (some output)
  | schema output => outputArguments output

def Task.verb : Task → Verb
  | validate .. => .validate
  | compile .. => .compile
  | dot .. => .dot
  | trace .. => .trace
  | schema _ => .schema

def Verb.word : Verb → String
  | validate => "validate"
  | compile => "compile"
  | dot => "dot"
  | trace => "trace"
  | schema => "schema"

def Request.arguments (request : Request) : List String :=
  match request.settings with
  | some path => "--config" :: path :: request.task.verb.word :: request.task.arguments
  | none => request.task.verb.word :: request.task.arguments

def Task.paths : Task → List String
  | validate script _ => [script]
  | compile script output => [script, output]
  | dot script output => script :: output.toList
  | trace script _ output => [script, output]
  | schema output => output.toList

/-- The paths are words, and the steps of a trace a number of 64 bits. -/
structure Request.IsPlain (request : Request) : Prop where
  settings : ∀ path ∈ request.settings, IsWord path
  paths : ∀ path ∈ request.task.paths, IsWord path
  steps : ∀ script steps output, request.task = .trace script steps output →
    steps ≤ Numeric.greatestWord

variable {verb : Verb} {key : Key} {given : Given} {word : String} {args : List String}

theorem readAfter_word (h : IsWord word) :
    readAfter verb none false given (word :: args) =
      (given.addWord verb word).bind fun given ↦ readAfter verb none false given args := by
  conv_lhs => unfold readAfter
  rw [if_neg Bool.false_ne_true]
  split
  case h_6 heq _ _ => cases heq
  case h_7 => rfl
  -- The other patterns are those of options.
  all_goals next hword _ => exact absurd hword (h.notOption _ _)

theorem readAfter_value (h : IsWord word) :
    readAfter verb (some key) false given (word :: args) =
      (given.add key word).bind fun given ↦ readAfter verb none false given args := by
  conv_lhs => unfold readAfter
  rw [if_neg Bool.false_ne_true]
  split
  case h_6 heq _ _ =>
    cases heq
    rfl
  case h_7 heq _ _ _ => cases heq
  all_goals next hword _ => exact absurd hword (h.notOption _ _)

theorem readBefore_value (h : IsWord word) :
    readBefore (some key) given (word :: args) =
      (given.add key word).bind fun given ↦ readBefore none given args := by
  conv_lhs => unfold readBefore
  split
  case h_5 heq _ =>
    cases heq
    cases given.add key word <;> rfl
  case h_6 heq _ _ _ => cases heq
  all_goals next hword _ => exact absurd hword (h.notOption _ _)

theorem isWord_repr (n : Nat) : IsWord n.repr := by
  obtain ⟨c, digits, hdigits, hdigit⟩ := Numeric.exists_toDigits_eq_cons n
  have htext : n.repr.toList = c :: digits := Nat.toList_repr.trans hdigits
  constructor
  · intro hempty
    rw [hempty] at htext
    cases htext
  · intro c' cs hdash
    rw [htext] at hdash
    obtain ⟨rfl, _⟩ := List.cons.inj hdash
    cases hdigit

theorem count?_repr {n : Nat} (h : n ≤ Numeric.greatestWord) : count? n.repr = some n := by
  obtain ⟨c, digits, hdigits, hdigit⟩ := Numeric.exists_toDigits_eq_cons n
  have hplus : c ≠ '+' := by
    rintro rfl
    cases hdigit
  have hall : (c :: digits).all Numeric.isDigit = true := by
    rw [← hdigits, List.all_eq_true]
    exact fun _ ↦ Numeric.isDigit_of_mem_toDigits
  have hvalue : Numeric.value (c :: digits) = n := hdigits ▸ Numeric.value_toDigits n
  simp [count?, Nat.toList_repr, hdigits, hplus, hall, hvalue, h]

theorem count?_le {text : String} {n : Nat} (h : count? text = some n) :
    n ≤ Numeric.greatestWord := by
  unfold count? at h
  dsimp only at h
  split_ifs at h with hbad
  obtain rfl := Option.some.inj h
  simp only [Bool.or_eq_true, decide_eq_true_eq, not_or, Nat.not_lt] at hbad
  exact hbad.2

namespace Given

theorem addWord_empty (hverb : verb ≠ .schema) (h : IsWord word) :
    empty.addWord verb word = .ok ⟨[], [word]⟩ := by
  simp [addWord, empty, hverb, h.ne_empty]

theorem add_path (hkey : key = .config ∨ key = .output) (hnew : given.has key = false)
    (h : IsWord word) :
    given.add key word = .ok { given with options := given.options ++ [(key, word)] } := by
  obtain rfl | rfl := hkey <;> simp [add, hnew, h.ne_empty]

theorem add_steps {n : Nat} (hn : n ≤ Numeric.greatestWord) (hnew : given.has .steps = false) :
    given.add .steps n.repr =
      .ok { given with options := given.options ++ [(.steps, n.repr)] } := by
  simp [add, hnew, count?_repr hn, (isWord_repr n).ne_empty]

end Given

theorem readBefore_verb (verb : Verb) (given : Given) (args : List String) :
    readBefore none given (verb.word :: args) = .ok (given, verb, args) := by
  cases verb <;> rfl

theorem readAfter_output {output : Option String}
    (hverb : Key.isKnown (some verb) .output = true) (hnew : given.has .output = false)
    (h : ∀ path ∈ output, IsWord path) :
    readAfter verb none false given (outputArguments output) =
      .ok { given with options := given.options ++ (output.map (Key.output, ·)).toList } := by
  cases output with
  | none => simp [outputArguments, readAfter]
  | some path =>
    have hkey : readAfter verb none false given ["--output", path] =
        readAfter verb (some .output) false given [path] := by
      cases verb with
      | validate => cases hverb
      | _ => rfl
    have hpath : IsWord path := h path rfl
    rw [outputArguments, hkey, readAfter_value hpath, Given.add_path (.inr rfl) hnew hpath]
    rfl

theorem readAfter_script (verb : Verb) (hverb : verb ≠ .schema) (h : IsWord word)
    (args : List String) :
    readAfter verb none false .empty (word :: args) =
      readAfter verb none false ⟨[], [word]⟩ args := by
  rw [readAfter_word h, Given.addWord_empty hverb h]
  rfl

theorem readAfter_script_output {output : Option String} (verb : Verb) (hverb : verb ≠ .schema)
    (hknown : Key.isKnown (some verb) .output = true) (hscript : IsWord word)
    (houtput : ∀ path ∈ output, IsWord path) :
    readAfter verb none false .empty (word :: outputArguments output) =
      .ok ⟨(output.map (Key.output, ·)).toList, [word]⟩ := by
  rw [readAfter_script verb hverb hscript]
  exact readAfter_output hknown rfl houtput

theorem exists_readAfter_arguments {task : Task} (hpaths : ∀ path ∈ task.paths, IsWord path)
    (hsteps : ∀ script steps output, task = .trace script steps output →
      steps ≤ Numeric.greatestWord) :
    ∃ given, readAfter task.verb none false .empty task.arguments = .ok given ∧
      Task.ofGiven? task.verb given = some task ∧ given.get? .config = none := by
  cases task with
  | validate script strict =>
    have hscript : IsWord script := hpaths script List.mem_cons_self
    have hread := readAfter_script .validate nofun hscript
    cases strict with
    | false => exact ⟨_, hread [], rfl, rfl⟩
    | true => exact ⟨_, hread ["--strict"], rfl, rfl⟩
  | compile script output =>
    obtain ⟨hscript, houtput⟩ := List.forall_mem_cons.mp hpaths
    have hpath : ∀ path ∈ some output, IsWord path := by simpa using houtput
    exact ⟨_, readAfter_script_output .compile nofun rfl hscript hpath, rfl, rfl⟩
  | dot script output =>
    obtain ⟨hscript, houtput⟩ := List.forall_mem_cons.mp hpaths
    have hpath : ∀ path ∈ output, IsWord path := by simpa using houtput
    have hread := readAfter_script_output .dot nofun rfl hscript hpath
    cases output <;> exact ⟨_, hread, rfl, rfl⟩
  | trace script steps output =>
    obtain ⟨hscript, houtput⟩ := List.forall_mem_cons.mp hpaths
    have hcount : steps ≤ Numeric.greatestWord := hsteps script steps output rfl
    have hkey (args : List String) :
        readAfter .trace none false ⟨[], [script]⟩ ("--steps" :: args) =
          readAfter .trace (some .steps) false ⟨[], [script]⟩ args := rfl
    have hread : readAfter .trace none false .empty
        (script :: "--steps" :: steps.repr :: outputArguments (some output)) =
          .ok ⟨[(.steps, steps.repr), (.output, output)], [script]⟩ := by
      rw [readAfter_script .trace nofun hscript, hkey, readAfter_value (isWord_repr steps),
        Given.add_steps hcount rfl]
      exact readAfter_output rfl rfl (by simpa using houtput)
    refine ⟨_, hread, ?_, rfl⟩
    simp [Task.verb, Task.ofGiven?, Given.get?, count?_repr hcount]
  | schema output =>
    have hread : readAfter .schema none false .empty (outputArguments output) =
        .ok ⟨(output.map (Key.output, ·)).toList, []⟩ :=
      readAfter_output rfl rfl (by simpa [Task.paths] using hpaths)
    cases output <;> exact ⟨_, hread, rfl, rfl⟩

theorem steps_le_of_ofGiven? {script output : String} {steps : Nat}
    (h : Task.ofGiven? verb given = some (.trace script steps output)) :
    steps ≤ Numeric.greatestWord := by
  cases verb with
  | trace =>
    simp only [Task.ofGiven?, Option.bind_eq_bind, Option.bind_eq_some_iff, Option.pure_def,
      Option.some.injEq, Task.trace.injEq] at h
    obtain ⟨_, _, _, _, _, rfl, _⟩ := h
    cases hcount : (given.get? .steps).bind count? with
    | none => exact Nat.le_of_ble_eq_true rfl
    | some n =>
      obtain ⟨text, _, htext⟩ := Option.bind_eq_some_iff.mp hcount
      exact count?_le htext
  | _ => simp [Task.ofGiven?, Option.bind_eq_some_iff] at h

theorem steps_le_of_ofArguments {config : Option String} {script output : String} {steps : Nat}
    (h : Request.ofArguments args = .ok ⟨config, .trace script steps output⟩) :
    steps ≤ Numeric.greatestWord := by
  unfold Request.ofArguments at h
  split at h
  · cases h
  · split at h
    · cases h
    · split at h
      next task hgiven =>
        cases h
        exact steps_le_of_ofGiven? hgiven
      · cases h

/-- The arguments that are written for a request make that request. -/
theorem ofArguments_arguments {request : Request} (h : request.IsPlain) :
    Request.ofArguments request.arguments = .ok request := by
  obtain ⟨given, hread, htask, hgiven⟩ := exists_readAfter_arguments h.paths h.steps
  obtain ⟨settings, task⟩ := request
  cases settings with
  | none =>
    simp only [Request.ofArguments, Request.arguments, readBefore_verb, hread, htask, hgiven]
    rfl
  | some path =>
    have hpath : IsWord path := h.settings path rfl
    have hbefore : readBefore none .empty
        ("--config" :: path :: task.verb.word :: task.arguments) =
          .ok (⟨[(.config, path)], []⟩, task.verb, task.arguments) := by
      change readBefore (some .config) .empty (path :: task.verb.word :: task.arguments) = _
      rw [readBefore_value hpath, Given.add_path (.inl rfl) rfl hpath]
      exact readBefore_verb _ _ _
    simp only [Request.ofArguments, Request.arguments, hbefore, hread, htask, hgiven]
    rfl

end StoryGraph.Command
