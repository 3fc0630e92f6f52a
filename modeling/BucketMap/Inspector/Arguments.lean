import BucketMap.Numeral

/-!
# Command-line arguments

The inspector takes the path of a config and switches before or behind it.

* A word that starts with `-` is a switch, by its name or by an abbreviation of a long name, with
  its value behind `=` or in the next word. A lone `-`, a negative number and an unknown word with
  a space are arguments, and so is everything behind the word `--`.
* `Words.classify` tells the words apart, `Arguments.read` takes them in order. The first fault
  counts; words that nothing takes are reported at the end, after a missing path.
* A switch with `--` as the value behind `=` is given without a value (`Given.blank`).
-/

namespace BucketMap

/-- The switches. -/
inductive Switch
  | help | key | replica | fastForward | debug
deriving DecidableEq

namespace Switch

/-- The names of the switches in the order of their definition. -/
def names : List (String × Switch) :=
  [("-h", help), ("--help", help), ("--key", key), ("--replica", replica),
    ("--fast-forward", fastForward), ("--debug", debug)]

/-- The name in messages. -/
def title : Switch → String
  | help => "-h/--help"
  | key => "--key"
  | replica => "--replica"
  | fastForward => "--fast-forward"
  | debug => "--debug"

/-- The switch is followed by a value. -/
def takesValue : Switch → Bool
  | key => true
  | replica => true
  | _ => false

/-- The switch with the given name. -/
def ofName? (name : Text) : Option Switch :=
  (names.find? fun n => Text.ofString n.1 = name).map (·.2)

end Switch

/-- Why arguments are refused. -/
inductive ArgumentFault
  /-- An abbreviation of several names. -/
  | ambiguous (word : Text) (candidates : List String)
  /-- A switch without its value. -/
  | noValue (switch : Switch)
  /-- A switch with a value that it does not take. -/
  | unexpectedValue (switch : Switch) (value : Text)
  /-- A replica that is no number. -/
  | notAnInteger (value : Text)
  | noConfig
  | unrecognized (words : List Text)

/-- The text of a fault. -/
def ArgumentFault.text : ArgumentFault → Text
  | ambiguous word names =>
    Text.ofString "ambiguous option: " ++ word ++ Text.ofString " could match " ++
      Text.join (Text.ofString ", ") (names.map Text.ofString)
  | noValue switch =>
    Text.ofString "argument " ++ Text.ofString switch.title ++
      Text.ofString ": expected one argument"
  | unexpectedValue switch value =>
    Text.ofString "argument " ++ Text.ofString switch.title ++
      Text.ofString ": ignored explicit argument " ++ value.quoted
  | notAnInteger value =>
    Text.ofString "argument --replica: invalid int value: " ++ value.quoted
  | noConfig => Text.ofString "the following arguments are required: config"
  | unrecognized words =>
    Text.ofString "unrecognized arguments: " ++ Text.join (Text.ofString " ") words

/-! ## Words -/

/-- A word of the command line. -/
inductive Word
  | argument (t : Text)
  /-- The word `--`, behind which there are arguments only. -/
  | separator
  /-- A switch by a long name, or one letter, with a value in the same word. -/
  | switch (s : Switch) (long : Bool) (value : Option Text)
  /-- A word that looks like a switch. -/
  | unknown (t : Text)

namespace Word

/-- The digits at the start of a text are dropped. -/
def dropDigits (t : Text) : Text := t.dropWhile fun c => c.digit?.isSome

/-- The text is empty or a line end. -/
def isEnd (t : Text) : Bool := t.isEmpty || t = [CodePoint.ofChar '\n']

/-- A minus and digits, or a minus and a decimal fraction. -/
def isNegativeNumber : Text → Bool
  | [] => false
  | c :: t =>
    let rest := dropDigits t
    c = '-' &&
      ((rest.length < t.length && isEnd rest) ||
        match rest with
        | [] => false
        | point :: fraction =>
          point = '.' && (dropDigits fraction).length < fraction.length &&
            isEnd (dropDigits fraction))

/-- A switch by its full name. -/
def fullName? (t : Text) : Option Word :=
  (Switch.ofName? t).map fun s => .switch s true none

/-- A switch by its full name with a value behind `=`. -/
def fullNameWithValue? (t : Text) : Option Word :=
  match Text.cut '=' t with
  | (name, some value) =>
    (Switch.ofName? name).map fun s =>
      .switch s (name.take 2 = Text.ofString "--") (some value)
  | (_, none) => none

/-- The names that a long word abbreviates, with its value. -/
def abbreviated (t : Text) : List (String × Word) :=
  let (name, value) := Text.cut '=' t
  (Switch.names.filter fun n => Text.startsWith (Text.ofString n.1) name).map fun n =>
    (n.1, .switch n.2 true value)

/-- The letter that a short word starts with, with the rest as its value. -/
def lettered (t : Text) : List (String × Word) :=
  (Switch.names.filter fun n => Text.ofString n.1 = t.take 2).map fun n =>
    (n.1, .switch n.2 false (some (t.drop 2)))

/-- The word of a text that is neither a name nor the separator. -/
def guess (t : Text) : Except ArgumentFault Word :=
  let found := if Text.startsWith t (Text.ofString "--") then abbreviated t else lettered t
  match found with
  | [(_, w)] => .ok w
  | [] =>
    if isNegativeNumber t || CodePoint.ofChar ' ' ∈ t then .ok (.argument t)
    else .ok (.unknown t)
  | several => .error (.ambiguous t (several.map (·.1)))

/-- The word of a text in front of the separator. -/
def classify (t : Text) : Except ArgumentFault Word :=
  if t.head? ≠ some (CodePoint.ofChar '-') then .ok (.argument t)
  else
    match fullName? t with
    | some w => .ok w
    | none =>
      if t.length = 1 then .ok (.argument t)
      else
        match fullNameWithValue? t with
        | some w => .ok w
        | none => guess t

/-- The words of a command line. -/
def classifyAll : List Text → Except ArgumentFault (List Word)
  | [] => .ok []
  | t :: ts =>
    if t = Text.ofString "--" then .ok (.separator :: ts.map .argument)
    else do return (← classify t) :: (← classifyAll ts)

end Word

/-! ## Taking the words -/

/-- The value of a switch. -/
inductive Given (α : Type)
  | absent
  /-- The switch is there without a value. -/
  | blank
  | value (a : α)

/-- What the command line says. -/
structure Arguments where
  config : Text
  key : Given Text
  replica : Given Int
  fastForward : Bool
  debug : Bool

/-- What is asked for. -/
inductive Request
  | help
  | inspect (arguments : Arguments)

namespace Arguments

/-- What the words so far say, and those that nothing took, the last one first. -/
structure Progress where
  config : Option Text
  key : Given Text
  replica : Given Int
  fastForward : Bool
  debug : Bool
  extras : List Text

/-- The value of a switch; the word `--` is none. -/
def givenOf (t : Text) : Given Text := if t = Text.ofString "--" then .blank else .value t

/-- A switch that takes a value, with its value. -/
def takeValue (p : Progress) (s : Switch) (value : Given Text) : Except ArgumentFault Progress :=
  match s, value with
  | .replica, .value t =>
    match Numeral.read t with
    | .ok n => .ok ⟨p.config, p.key, .value n, p.fastForward, p.debug, p.extras⟩
    | .error _ => .error (.notAnInteger t)
  | .replica, _ => .ok ⟨p.config, p.key, .blank, p.fastForward, p.debug, p.extras⟩
  | _, given => .ok ⟨p.config, given, p.replica, p.fastForward, p.debug, p.extras⟩

/-- A word that is not taken. -/
def leave (p : Progress) (t : Text) : Progress :=
  ⟨p.config, p.key, p.replica, p.fastForward, p.debug, t :: p.extras⟩

/-- An argument that is no value of a switch: the path, if it is the first one. -/
def takeArgument (p : Progress) (t : Text) : Progress :=
  match p.config with
  | none => ⟨some t, p.key, p.replica, p.fastForward, p.debug, p.extras⟩
  | some _ => leave p t

/-- A switch without a value. -/
def takeFlag (p : Progress) : Switch → Progress
  | .fastForward => ⟨p.config, p.key, p.replica, true, p.debug, p.extras⟩
  | .debug => ⟨p.config, p.key, p.replica, p.fastForward, true, p.extras⟩
  | _ => p

/-- The texts of the arguments among the words. -/
def texts (words : List Word) : List Text :=
  words.filterMap fun w =>
    match w with
    | .argument t => some t
    | _ => none

/-- The separator and the arguments behind it: the first one is the path unless there is one. -/
def takeRest (p : Progress) (rest : List Word) : Progress :=
  match p.config, texts rest with
  | none, t :: ts => ts.foldl leave (takeArgument p t)
  | _, ts => ts.foldl leave (leave p (Text.ofString "--"))

/-- What stands behind the letter of the help switch may only ask for help again. -/
def helpFault? (value : Text) : Option ArgumentFault :=
  let rest := value.dropWhile (· = CodePoint.ofChar 'h')
  if value.isEmpty || !rest.isEmpty then some (.unexpectedValue .help rest) else none

/--
Take the words in order; `none` is the request for help. The separator belongs to the path if it
stands directly in front of it or behind it.
-/
def take : Progress → List Word → Except ArgumentFault (Option Progress)
  | p, [] => .ok (some p)
  | p, .argument t :: .separator :: words =>
    match p.config with
    | none => .ok (some ((texts words).foldl leave (takeArgument p t)))
    | some _ => .ok (some (takeRest (leave p t) words))
  | p, .argument t :: words => take (takeArgument p t) words
  | p, .separator :: words => .ok (some (takeRest p words))
  | p, .unknown t :: words => take (leave p t) words
  | p, .switch s long (some value) :: words =>
    if s.takesValue then do take (← takeValue p s (givenOf value)) words
    else if long then .error (.unexpectedValue s value)
    else
      match helpFault? value with
      | some fault => .error fault
      | none => .ok none
  | p, .switch s _ none :: words =>
    if s.takesValue then
      match words with
      | .argument t :: others => do take (← takeValue p s (givenOf t)) others
      | _ => .error (.noValue s)
    else if s = .help then .ok none
    else take (takeFlag p s) words

/-- What the command line asks for, where `debug` is the default of that switch. -/
def read (debug : Bool) (line : List Text) : Except ArgumentFault Request := do
  let words ← Word.classifyAll line
  match ← take ⟨none, .absent, .value 0, false, debug, []⟩ words with
  | none => return .help
  | some p =>
    match p.config, p.extras with
    | none, _ => .error .noConfig
    | some config, [] =>
      return .inspect ⟨config, p.key, p.replica, p.fastForward, p.debug⟩
    | some _, extras => .error (.unrecognized extras.reverse)

end Arguments

end BucketMap
