import BucketMap.Inspector

/-!
# The program

The command line of the inspector: arguments, environment and one file go in, lines come out. They
are printed in UTF-8, which has no form for surrogates. In the lines of the log and of a failure these
are written as escapes.
-/

namespace BucketMap

namespace Program

/-- The string of a text without surrogates. -/
def stringOfText (t : Text) : String := String.ofList (t.map fun c => Char.ofNat c.val)

/-- The text with surrogates as escapes. -/
def escaped (t : Text) : Text :=
  t.flatMap fun c => if c.isSurrogate then Text.ofString "\\u" ++ hexDigits 4 c.val else [c]

/-- The variables that the settings look at, as far as they are set. -/
def readEnvironment : IO Environment := do
  let names := ["BUCKET_TOPOLOGY_DATA_PORT", "BUCKET_TOPOLOGY_MGMT_PORT", "BUCKET_TOPOLOGY_DEBUG",
    "BUCKET_TOPOLOGY_LOG_LEVEL"]
  names.filterMapM fun name => do
    match ← IO.getEnv name with
    | some value => return some (Text.ofString name, value.toUTF8.toList)
    | none => return none

/-- The reason for which the system refuses to read a file. -/
def readFault : IO.Error → ReadFault
  | .noFileOrDirectory .. => .missing
  | .permissionDenied .. => .denied
  | .inappropriateType _ code _ => if code = 20 then .notADirectory else .isADirectory
  | .resourceExhausted .. => .nameTooLong
  | e => ⟨5, toString e⟩

/-- The bytes of a file, or why it cannot be read. -/
def readFile (path : Text) : IO (Except ReadFault Bytes) := do
  try
    let contents ← IO.FS.readBinFile (stringOfText path)
    return .ok contents.toList
  catch e => return .error (readFault e)

/-- The path that the arguments name. -/
def pathOf (settings : Settings) (line : List Text) : Option Text :=
  match Arguments.read settings.debug line with
  | .ok (.inspect arguments) => some (FilePath.normalize arguments.config)
  | _ => none

/-- Print the report of a run and give its code. -/
def report (r : Inspector.Report) : IO UInt32 := do
  IO.print (stringOfText r.output)
  IO.eprint (stringOfText (escaped r.errors))
  match r.ending with
  | .returned code => return code.toUInt32
  | .exited code => return code.toUInt32
  | .stopped stop =>
    IO.eprintln (stringOfText (escaped stop.text))
    return 1

/-- Inspect the config that the arguments name. -/
def start (args : List String) : IO UInt32 := do
  let line := args.map Text.ofString
  match Settings.ofEnvironment (← readEnvironment) with
  | .error f =>
    IO.eprintln (stringOfText (escaped f.text))
    return 1
  | .ok settings =>
    let contents ←
      match pathOf settings line with
      | some path => readFile path
      | none => pure (.error .missing)
    report (Inspector.run settings (fun _ => contents) .utf8 line)

end Program

end BucketMap

/-- The program. -/
def main (args : List String) : IO UInt32 := BucketMap.Program.start args
