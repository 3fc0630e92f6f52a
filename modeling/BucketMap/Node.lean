import BucketMap.Run

/-!
# Nodes

A node of the cluster: its address and the ports of the services that it offers.

* `Services` keeps the services in the order in which they were first listed; a port that is set
  again keeps the place of the service (`Services.port?_set`).
* `Node.of` builds a node with the normal form of its address. Two nodes are the same when their
  addresses are; the ports do not tell nodes apart (`Node.same`).
-/

namespace BucketMap

/-- The services of a node. -/
inductive Service
  /-- Key-value data. -/
  | data
  /-- Cluster management. -/
  | management
  /-- The view engine. -/
  | views
  | query
  | search
  | analytics
deriving DecidableEq

namespace Service

/-- All services. -/
def all : List Service := [data, management, views, query, search, analytics]

/-- The key of a service in documents. -/
def key : Service → Text
  | data => Text.ofString "kv"
  | management => Text.ofString "mgmt"
  | views => Text.ofString "capi"
  | query => Text.ofString "n1ql"
  | search => Text.ofString "fts"
  | analytics => Text.ofString "cbas"

/-- The service with the given key. -/
def ofKey? (key : Text) : Option Service := all.find? fun s => s.key = key

end Service

/-- Ports by service, each service once. -/
abbrev Services := List (Service × Int)

namespace Services

/-- The port of a service. -/
def port? (service : Service) : Services → Option Int
  | [] => none
  | (s, p) :: others => if s = service then some p else port? service others

/-- The services with one port set: in its old place, or behind all others. -/
def set (service : Service) (port : Int) : Services → Services
  | [] => [(service, port)]
  | (s, p) :: others => if s = service then (s, port) :: others else (s, p) :: set service port others

/-- The services with all ports of the second list set, in its order. -/
def update (services others : Services) : Services :=
  others.foldl (fun acc entry => acc.set entry.1 entry.2) services

theorem port?_set (service other : Service) (port : Int) (services : Services) :
    (services.set service port).port? other =
      if service = other then some port else services.port? other := by
  induction services with
  | nil => simp [set, port?]
  | cons entry others ih =>
    obtain ⟨s, p⟩ := entry
    by_cases hs : s = service
    · subst hs
      by_cases ho : s = other <;> simp [set, port?, ho]
    · by_cases ho : s = other
      · subst ho
        simp [set, port?, hs, Ne.symm hs]
      · simp [set, port?, hs, ho, ih]

end Services

/-- A node of the cluster. -/
structure Node where
  hostname : Text
  services : Services

namespace Node

/-- The node at a host, whose address is brought into normal form. -/
def of (host : Text) (services : Services) : Except Failure Node :=
  match Address.normalize host with
  | .ok hostname => .ok ⟨hostname, services⟩
  | .error fault => refuse (.address fault)

/-- The port of a service. -/
def port? (n : Node) (service : Service) : Option Int := Services.port? service n.services

/-- The nodes have one address. -/
def same (a b : Node) : Bool := a.hostname = b.hostname

/-- The ports of a node in a message. -/
def portsMessage : Services → Message
  | [] => []
  | [(s, p)] => [s.key, "=", p]
  | (s, p) :: others =>
    let first : Message := [s.key, "=", p, ", "]
    first ++ portsMessage others

/-- A node in a message. -/
def message (n : Node) : Message :=
  let before : Message := ["NodeInfo(hostname=", .quoted n.hostname, ", services=\x7b"]
  let after : Message := ["\x7d)"]
  before ++ portsMessage n.services ++ after

end Node

end BucketMap
