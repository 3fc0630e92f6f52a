import BucketMap.Inspector.FilePath
import BucketMap.Inspector.Level
import BucketMap.Inspector.Usage
import BucketMap.Routing
import BucketMap.Settings

/-!
# The inspector

The inspector loads a bucket config from a file, prints a summary of it, and prints which node
owns a key if it is asked for one.

* `Inspector.inspect` does so for given arguments, and `Inspector.run` for a command line. Files
  are read through a function from paths to bytes.
* A `Printer` is the stream that is printed on. It may refuse a line, which stops the inspector;
  the lines before that one stay.
* A `Report` is what the inspector prints and how it ends: with a code, or with a failure that is
  none of those that it reports itself.
-/

namespace BucketMap

namespace Inspector

/-- Failures that the inspector does not report itself. -/
inductive Stop
  | failure (f : Failure)
  /-- The path cannot be handed to the operating system. -/
  | path (fault : Escaped.Fault)
  | level (fault : Level.Fault)
  /-- The switch for the key is there without a key. -/
  | blankKey
  /-- The switch for the replica is there without a number. -/
  | blankReplica

/-- The sort of a failure. -/
def Stop.family : Stop → Family
  | failure f => f.family
  | path fault => fault.family
  | level .format => .value
  | level .styles => .type
  | blankKey => .type
  | blankReplica => .type

/-- The text of a failure. -/
def Stop.text : Stop → Text
  | failure f => f.text
  | path fault => fault.text
  | level fault => Text.ofString fault.text
  | blankKey => Text.ofString "a bytes-like object is required, not 'list'"
  | blankReplica => Text.ofString "unsupported operand type(s) for -: 'list' and 'int'"

/-- How the inspector ends. -/
inductive Ending
  /-- After its work, with a code. -/
  | returned (code : Nat)
  /-- Instead of its work, with a code. -/
  | exited (code : Nat)
  | stopped (stop : Stop)

/-- What the inspector prints, and how it ends. -/
structure Report where
  ending : Ending
  output : Text
  errors : Text

/-- The contents of a file, or why it cannot be read. -/
abbrev Files := Text → Except ReadFault Bytes

/-! ## Printing -/

/-- A stream to print on. It takes a text or refuses it with a failure. -/
abbrev Printer := Text → Except Failure Unit

/-- A stream that takes what has a UTF-8 form. -/
def Printer.utf8 : Printer := fun t =>
  match Utf8.encode t with
  | .ok _ => .ok ()
  | .error run => .error (.unencodable run)

/-- Print a message on a line of its own. The stream may refuse it, and an integer in it may be too
long to be written. -/
def printLine (printer : Printer) (m : Message) : Except Failure Text :=
  match m.render with
  | .ok t => do
    printer t
    return t ++ Text.ofString "\n"
  | .error _ => .error .numeralTooLong

/-- What is printed, and the failure that ends it early. -/
structure Printed where
  output : Text
  failure : Option Failure

/-- Print messages line by line. The lines before a failure stay. -/
def printLines (printer : Printer) : List Message → Printed
  | [] => ⟨[], none⟩
  | m :: messages =>
    match printLine printer m with
    | .ok line =>
      let others := printLines printer messages
      ⟨line ++ others.output, others.failure⟩
    | .error f => ⟨[], some f⟩

/-! ## The summary -/

/-- The line for a partition host. -/
def hostLine (c : BucketConfig) (index : Nat) (host : Node) : Message :=
  ["  [", index, "] ", host.hostname,
    if c.isPrimary host.hostname then " (primary)" else " (no primary)"]

/-- The lines for the partition hosts from the given index on. -/
def hostLines (c : BucketConfig) : Nat → List Node → List Message
  | _, [] => []
  | index, host :: hosts => hostLine c index host :: hostLines c (index + 1) hosts

/-- The lines for a config itself. -/
def headLines (c : BucketConfig) : List Message :=
  [["Bucket ", c.name, " (rev ", c.rev, ")"],
    ["  Partitions: ", c.partitionCount],
    ["  Replicas: ", c.replicaCount],
    ["  Tainted: ", BucketConfig.truth c.tainted],
    ["  Ephemeral: ", BucketConfig.truth c.ephemeral],
    ["  Fast-forward map: ", BucketConfig.truth c.hasForward]]

/-- The lines of the summary of a config. -/
def summary (c : BucketConfig) : List Message := headLines c ++ hostLines c 0 c.hosts

/-! ## Owners of keys -/

/-- The partition and the owner of a key. -/
def locate (c : BucketConfig) (key : Text) (replica : Int) (forward : Bool) :
    Run (Nat × Option Node) := do
  let partition ← Run.ofExcept ((Key.text key).partition c.partitionCount)
  let node ← Holder.locate ⟨some c⟩ (.text key) replica forward
  return (partition, node)

/-- The line for the owner of a key. -/
def ownerLine (key : Text) (partition : Nat) (replica : Int) (owner : Option Node) : Message :=
  let name : Piece :=
    match owner with
    | some node => node.hostname
    | none => "none"
  ["Key ", key, " -> partition ", partition, ", replica ", replica, ": ", name]

/-- The failures of a config or of a key that the inspector reports. -/
def isReported (f : Failure) : Bool :=
  match f.family with
  | .configuration => true
  | .illegalState => true
  | .value => true
  | .encoding => true
  | _ => false

/-- The failures of a document that the inspector reports. -/
def isRefusal (f : Failure) : Bool :=
  match f.family with
  | .configuration => true
  | .illegalState => true
  | _ => false

/-- The record of a failure. -/
def errorRecord (words subject : Text) (reason : Text) : Record :=
  ⟨.inspector, .error, Text.ofString "Could not " ++ words ++ subject ++ Text.ofString ": " ++
    reason⟩

/-! ## The parts of a run -/

/-- A part of a run: what is printed and logged, and how it ends. -/
structure Part where
  ending : Ending
  output : Text
  log : List Record

/-- The part that prints a message and ends. What cannot be printed stops the inspector. -/
def Part.ofMessage (printer : Printer) (m : Message) (code : Nat) (log : List Record) : Part :=
  match printLine printer m with
  | .ok line => ⟨.returned code, line, log⟩
  | .error f => ⟨.stopped (.failure f), [], log⟩

/-- The report on a key that cannot be located. -/
def notLocated (key : Text) (f : Failure) (log : List Record) : Part :=
  if isReported f then
    ⟨.returned 1, [], log ++ [errorRecord (Text.ofString "locate ") key f.text]⟩
  else ⟨.stopped (.failure f), [], log⟩

/-- The part for a key. -/
def keyPart (printer : Printer) (c : BucketConfig) (key : Text) (replica : Given Int)
    (forward : Bool) : Part :=
  match replica with
  | .value n =>
    let run := locate c key n forward
    match run.outcome with
    | .ok (partition, owner) => Part.ofMessage printer (ownerLine key partition n owner) 0 run.log
    | .error f => notLocated key f run.log
  | _ =>
    match (Key.text key).partition c.partitionCount with
    | .ok _ => ⟨.stopped .blankReplica, [], []⟩
    | .error f => notLocated key f []

/-- The part for the switch of the key without a key. -/
def blankKeyPart (c : BucketConfig) : Part :=
  match (Key.bytes []).partition c.partitionCount with
  | .ok _ => ⟨.stopped .blankKey, [], []⟩
  | .error f => notLocated (Text.ofString "[]") f []

/-- The part for the key, if one is asked for. -/
def ownerPart (printer : Printer) (c : BucketConfig) (arguments : Arguments) : Part :=
  match arguments.key with
  | .absent => ⟨.returned 0, [], []⟩
  | .blank => blankKeyPart c
  | .value key => keyPart printer c key arguments.replica arguments.fastForward

/-- The part for a config. -/
def configPart (printer : Printer) (c : BucketConfig) (arguments : Arguments) (log : List Record) :
    Part :=
  let printed := printLines printer (summary c)
  match printed.failure with
  | none =>
    let owner := ownerPart printer c arguments
    ⟨owner.ending, printed.output ++ owner.output, log ++ owner.log⟩
  | some f => ⟨.stopped (.failure f), printed.output, log⟩

/-- The config in a file. -/
def load (settings : Settings) (bytes : Bytes) : Run BucketConfig := do
  let document ← Document.read settings.ports (.bytes bytes)
  BucketConfig.build none document

/-- The record of a config that is refused. -/
def refusalRecord (path : Text) (f : Failure) : Record :=
  ⟨.inspector, .error, Text.ofString "Invalid bucket config " ++ path ++ Text.ofString ": " ++
    f.text⟩

/-- The part for the bytes of a file. -/
def bytesPart (settings : Settings) (printer : Printer) (path : Text) (bytes : Bytes)
    (arguments : Arguments) : Part :=
  let run := load settings bytes
  match run.outcome with
  | .ok c => configPart printer c arguments run.log
  | .error f =>
    if isRefusal f then ⟨.returned 1, [], run.log ++ [refusalRecord path f]⟩
    else ⟨.stopped (.failure f), [], run.log⟩

/-- The part for a path. -/
def filePart (settings : Settings) (files : Files) (printer : Printer) (arguments : Arguments) :
    Part :=
  let path := FilePath.normalize arguments.config
  match Escaped.encode path with
  | .error fault => ⟨.stopped (.path fault), [], []⟩
  | .ok _ =>
    match files path with
    | .ok bytes => bytesPart settings printer path bytes arguments
    | .error fault =>
      ⟨.returned 1, [], [errorRecord (Text.ofString "read ") path (fault.text path)]⟩

/-! ## Whole runs -/

/-- The level from which on records are shown. -/
def levelOf (settings : Settings) (arguments : Arguments) : Except Level.Fault Level :=
  if arguments.debug then .ok Severity.debug.rank else Level.ofName settings.logLevel

/-- The report for given arguments. -/
def inspect (settings : Settings) (files : Files) (printer : Printer) (arguments : Arguments) :
    Report :=
  match levelOf settings arguments with
  | .error fault => ⟨.stopped (.level fault), [], []⟩
  | .ok level =>
    let part := filePart settings files printer arguments
    ⟨part.ending, part.output, level.lines part.log⟩

/-- The report for a command line. -/
def run (settings : Settings) (files : Files) (printer : Printer) (line : List Text) : Report :=
  match Arguments.read settings.debug line with
  | .error fault => ⟨.exited 2, [], Usage.refusal fault⟩
  | .ok .help =>
    match printer (Usage.full settings.debug) with
    | .ok () => ⟨.exited 0, Usage.full settings.debug, []⟩
    | .error f => ⟨.stopped (.failure f), [], []⟩
  | .ok (.inspect arguments) => inspect settings files printer arguments

end Inspector

end BucketMap
