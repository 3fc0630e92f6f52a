import BucketMap.Inspector.Arguments

/-!
# The usage of the inspector

The lines that explain the command line, at most eighty columns wide.
-/

namespace BucketMap

namespace Usage

/-- The name of the program. -/
def program : Text := Text.ofString "bucket-topology"

/-- Lines, each with its end. -/
def lines (ls : List String) : Text := ls.flatMap fun l => Text.ofString l ++ Text.ofString "\n"

/-- The command line in short. -/
def short : Text :=
  lines
    ["usage: bucket-topology [-h] [--key KEY] [--replica REPLICA] [--fast-forward]",
      "                       [--debug]",
      "                       config"]

/-- The explanation of all arguments, where `debug` is the default of that switch. -/
def full (debug : Bool) : Text :=
  short ++
    lines
      ["",
        "Bucket Topology: inspect partition ownership of a bucket config",
        "",
        "positional arguments:",
        "  config             Path to a bucket config JSON document",
        "",
        "options:",
        "  -h, --help         show this help message and exit",
        "  --key KEY          Locate the nodes owning this key (default: None)",
        "  --replica REPLICA  0 for the master, n for the n-th replica (default: 0)",
        "  --fast-forward     Use the fast-forward map of a rebalancing bucket",
        "                     (default: False)",
        if debug then "  --debug            Enable debug logging (default: True)"
        else "  --debug            Enable debug logging (default: False)"]

/-- The report of a fault in the arguments. -/
def refusal (fault : ArgumentFault) : Text :=
  short ++ program ++ Text.ofString ": error: " ++ fault.text ++ Text.ofString "\n"

end Usage

end BucketMap
