import BucketMap.Run

/-!
# Log levels

A record is shown if its severity reaches the level. `Level.ofName` reads the name of a level in
any case; a name that means nothing stands for INFO, and two names that mean something else than a
level are refused.
-/

namespace BucketMap

/-- The rank that a record needs to be shown. -/
abbrev Level := Nat

/-- The rank of a severity. -/
def Severity.rank : Severity → Nat
  | debug => 10
  | info => 20
  | warning => 30
  | error => 40

namespace Level

/-- Why a name is refused as a level. -/
inductive Fault
  /-- The name of a line format. -/
  | format
  /-- The name of the table of format styles. -/
  | styles
deriving DecidableEq

/-- The names of levels. -/
def named : List (String × Level) :=
  [("CRITICAL", 50), ("FATAL", 50), ("ERROR", 40), ("WARNING", 30), ("WARN", 30), ("INFO", 20),
    ("DEBUG", 10), ("NOTSET", 0)]

/-- The names that mean something else. -/
def refused : List (String × Fault) := [("BASIC_FORMAT", .format), ("_STYLES", .styles)]

/-- The level that a name stands for. -/
def ofName (name : Text) : Except Fault Level :=
  match Text.asciiUpper? name with
  | none => .ok 20
  | some upper =>
    match refused.find? fun r => Text.ofString r.1 = upper with
    | some (_, fault) => .error fault
    | none =>
      match named.find? fun n => Text.ofString n.1 = upper with
      | some (_, level) => .ok level
      | none => .ok 20

/-- The words for a refused level. -/
def Fault.text : Fault → String
  | format => "Unknown level: '%(levelname)s:%(name)s:%(message)s'"
  | styles =>
    "Level not an integer or a valid string: \x7b" ++
      "'%': (<class 'logging.PercentStyle'>, '%(levelname)s:%(name)s:%(message)s'), " ++
      "'\x7b': (<class 'logging.StrFormatStyle'>, " ++
      "'\x7blevelname\x7d:\x7bname\x7d:\x7bmessage\x7d'), " ++
      "'$': (<class 'logging.StringTemplateStyle'>, " ++
      "'$\x7blevelname\x7d:$\x7bname\x7d:$\x7bmessage\x7d')\x7d"

/-- The lines of the records that reach the level. -/
def lines (level : Level) (log : List Record) : Text :=
  (log.filter fun r => level ≤ r.severity.rank).flatMap fun r =>
    r.channel.name ++ Text.ofString " - " ++ Text.ofString r.severity.name ++
      Text.ofString " - " ++ r.text ++ Text.ofString "\n"

end Level

end BucketMap
