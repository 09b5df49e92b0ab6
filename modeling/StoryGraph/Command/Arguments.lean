import StoryGraph.Numeric.Digits

namespace StoryGraph.Command

inductive Task where
  | validate (script : String) (strict : Bool)
  | compile (script output : String)
  | dot (script : String) (output : Option String)
  | trace (script : String) (steps : Nat) (output : String)
  | schema (output : Option String)
  deriving DecidableEq, Repr, Inhabited

structure Request where
  settings : Option String
  task : Task
  deriving DecidableEq, Repr, Inhabited

inductive Halt where
  | usage
  | help
  | version
  deriving DecidableEq, Repr, Inhabited

inductive Verb where
  | validate
  | compile
  | dot
  | trace
  | schema
  deriving DecidableEq, Repr, Inhabited

def Verb.ofWord? : String → Option Verb
  | "validate" => some validate
  | "compile" => some compile
  | "dot" => some dot
  | "trace" => some trace
  | "schema" => some schema
  | _ => none

inductive Key where
  | config
  | verbose
  | strict
  | output
  | steps
  | help
  | version
  deriving DecidableEq, Repr, Inhabited

namespace Key

def wantsValue : Key → Bool
  | config | output | steps => true
  | verbose | strict | help | version => false

def ofName? : String → Option Key
  | "config" => some config
  | "verbose" => some verbose
  | "strict" => some strict
  | "output" => some output
  | "steps" => some steps
  | "help" => some help
  | "version" => some version
  | _ => none

def ofLetter? : Char → Option Key
  | 'v' => some verbose
  | 'o' => some output
  | 'h' => some help
  | 'V' => some version
  | _ => none

def isKnown : Option Verb → Key → Bool
  | _, config | _, verbose | _, help => true
  | verb, version => verb.isNone
  | verb, strict => verb = some .validate
  | verb, steps => verb = some .trace
  | verb, output => verb.isSome && verb ≠ some .validate

end Key

/-- A number of 64 bits, with or without a plus. -/
def count? (text : String) : Option Nat :=
  let digits := match text.toList with
    | '+' :: cs => cs
    | cs => cs
  let n := Numeric.value digits
  if digits.isEmpty || !digits.all Numeric.isDigit || Numeric.greatestWord < n then none
  else some n

structure Given where
  options : List (Key × String)
  words : List String
  deriving DecidableEq, Repr, Inhabited

namespace Given

def empty : Given := ⟨[], []⟩

variable (given : Given)

def get? (key : Key) : Option String :=
  (given.options.find? fun option ↦ option.1 = key).map Prod.snd

def has (key : Key) : Bool := (given.get? key).isSome

def add (key : Key) (value : String) : Except Halt Given :=
  match key with
  | .help => .error .help
  | .version => .error .version
  | _ =>
    if given.has key then .error .usage
    else if key = .steps && (count? value).isNone then .error .usage
    else if key.wantsValue && value.isEmpty then .error .usage
    else .ok { given with options := given.options ++ [(key, value)] }

def addWord (verb : Verb) (word : String) : Except Halt Given :=
  if verb = .schema || !given.words.isEmpty || word.isEmpty then .error .usage
  else .ok { given with words := [word] }

/-- Takes letters after a dash. A letter that wants a value takes the rest, with or without an
equals sign, or leaves itself to the next argument. -/
def addLetters (verb : Option Verb) : List Char → Given → Except Halt (Given × Option Key)
  | [], given => .ok (given, none)
  | c :: cs, given =>
    match (Key.ofLetter? c).filter (Key.isKnown verb) with
    | none => .error .usage
    | some key =>
      if key.wantsValue then
        match cs with
        | [] => .ok (given, some key)
        | '=' :: value => (given.add key (String.ofList value)).map (·, none)
        | value => (given.add key (String.ofList value)).map (·, none)
      else
        match given.add key "" with
        | .ok given => addLetters verb cs given
        | .error halt => .error halt

def addName (verb : Option Verb) (text : List Char) : Except Halt (Given × Option Key) :=
  let (name, rest) := text.span (· ≠ '=')
  match (Key.ofName? (String.ofList name)).filter (Key.isKnown verb), rest with
  | none, _ => .error .usage
  | some key, [] =>
    if key.wantsValue then .ok (given, some key) else (given.add key "").map (·, none)
  | some key, _ :: value =>
    if key.wantsValue then (given.add key (String.ofList value)).map (·, none) else .error .usage

end Given

/-- Reads the arguments after a verb. `pending` is an option that waits for its value; after two
dashes alone every argument is a word. -/
def readAfter (verb : Verb) : Option Key → Bool → Given → List String → Except Halt Given
  | none, _, given, [] => .ok given
  | some _, _, _, [] => .error .usage
  | pending, onlyWords, given, arg :: args =>
    let take (given : Given) : Except Halt Given := readAfter verb none onlyWords given args
    if onlyWords then (given.addWord verb arg).bind take
    else
      match arg.toList, pending with
      | ['-', '-'], some _ => .error .usage
      | ['-', '-'], none => readAfter verb none true given args
      | '-' :: _ :: _, some _ => .error .usage
      | '-' :: '-' :: name, none =>
        match given.addName (some verb) name with
        | .ok (given, pending) => readAfter verb pending false given args
        | .error halt => .error halt
      | '-' :: c :: letters, none =>
        match given.addLetters (some verb) (c :: letters) with
        | .ok (given, pending) => readAfter verb pending false given args
        | .error halt => .error halt
      | _, some key => (given.add key arg).bind take
      | _, none => (given.addWord verb arg).bind take

def readBefore : Option Key → Given → List String → Except Halt (Given × Verb × List String)
  | _, _, [] => .error .usage
  | pending, given, arg :: args =>
    match arg.toList, pending with
    | '-' :: _ :: _, some _ => .error .usage
    | ['-', '-'], none => .error .usage
    | '-' :: '-' :: name, none =>
      match given.addName none name with
      | .ok (given, pending) => readBefore pending given args
      | .error halt => .error halt
    | '-' :: c :: letters, none =>
      match given.addLetters none (c :: letters) with
      | .ok (given, pending) => readBefore pending given args
      | .error halt => .error halt
    | _, some key =>
      match given.add key arg with
      | .ok given => readBefore none given args
      | .error halt => .error halt
    | _, none =>
      match Verb.ofWord? arg with
      | some verb => .ok (given, verb, args)
      | none =>
        if arg = "help" then
          match args with
          | [] => .error .help
          | [word] =>
            .error (if word = "help" ∨ (Verb.ofWord? word).isSome then .help else .usage)
          | _ => .error .usage
        else .error .usage

def Task.ofGiven? (verb : Verb) (given : Given) : Option Task := do
  match verb with
  | .validate => return .validate (← given.words.head?) (given.has .strict)
  | .compile => return .compile (← given.words.head?) (← given.get? .output)
  | .dot => return .dot (← given.words.head?) (given.get? .output)
  | .trace =>
    return .trace (← given.words.head?) (((given.get? .steps).bind count?).getD 100)
      (← given.get? .output)
  | .schema => return .schema (given.get? .output)

/-- The request that the arguments make. Settings named after the verb count before others. -/
def Request.ofArguments (args : List String) : Except Halt Request :=
  match readBefore none .empty args with
  | .error halt => .error halt
  | .ok (before, verb, args) =>
    match readAfter verb none false .empty args with
    | .error halt => .error halt
    | .ok given =>
      match Task.ofGiven? verb given with
      | some task => .ok ⟨(given.get? .config).or (before.get? .config), task⟩
      | none => .error .usage

end StoryGraph.Command
