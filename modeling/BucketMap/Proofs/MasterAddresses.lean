import BucketMap.Proofs.PrimaryNodes

/-!
# What the owners of masters depend on

The addresses that a config keeps of the nodes that own a master are the host names at the masters'
places in the node list, each once (`AreMasters`, `areMasters_of_primaryHosts`). Such a collection
is fixed by the host names and by the set of the masters (`AreMasters.mem_iff_mem`): nothing else of
a document has a part in the answers, neither the order or the number of the rows, nor replicas,
descriptors or a fast-forward map (`BucketConfig.isPrimary_eq_of_sameMasters`).
-/

namespace BucketMap

theorem nodup_distinct (ts : List Text) : (distinct ts).Nodup := by
  induction ts with
  | nil => exact List.nodup_nil
  | cons first rest ih =>
    rw [distinct, List.nodup_cons]
    refine ⟨?_, ih.filter _⟩
    intro h
    have hne := (List.mem_filter.mp h).2
    exact absurd rfl (of_decide_eq_true hne)

/-! ## The set of masters -/

/-- Some partition has the ordinal as its master. -/
def IsMaster (partitions : List Partition) (ordinal : Int) : Prop :=
  0 ≤ ordinal ∧ ∃ q ∈ partitions, q.master = ordinal

/-- Two maps have the same masters, however their rows are ordered or repeated. -/
def SameMasters (partitions partitions' : List Partition) : Prop :=
  ∀ ordinal, IsMaster partitions ordinal ↔ IsMaster partitions' ordinal

/-- The addresses are those of the nodes at the masters' places, and each master has a node. -/
structure AreMasters (nodes : List Node) (partitions : List Partition) (addresses : List Text) :
    Prop where
  nodup : addresses.Nodup
  placed : ∀ m, IsMaster partitions m → ∃ n, StandsAt nodes m n
  mem_iff : ∀ address, address ∈ addresses ↔
    ∃ m, IsMaster partitions m ∧ ∃ n, StandsAt nodes m n ∧ n.hostname = address

theorem ownsMaster_iff {nodes : List Node} {partitions : List Partition} {address : Text} :
    OwnsMaster nodes partitions address ↔
      ∃ m, IsMaster partitions m ∧ ∃ n, StandsAt nodes m n ∧ n.hostname = address := by
  constructor
  · rintro ⟨q, hq, n, hn, ha⟩
    exact ⟨q.master, ⟨hn.nonneg, q, hq, rfl⟩, n, hn, ha⟩
  · rintro ⟨m, ⟨_, q, hq, rfl⟩, n, hn, ha⟩
    exact ⟨q, hq, n, hn, ha⟩

theorem areMasters_of_primaryHosts {nodes : List Node} {partitions : List Partition}
    {primaries : List Text} (h : primaryHosts nodes partitions = .ok primaries) :
    AreMasters nodes partitions primaries := by
  refine ⟨?_, ?_, fun address => (mem_primaryHosts_iff h).trans ownsMaster_iff⟩
  · obtain ⟨addresses, _, rfl⟩ := exists_masterHosts_of_primaryHosts h
    exact nodup_distinct addresses
  · rintro m ⟨hpos, q, hq, rfl⟩
    exact exists_node_of_primaryHosts h q hq hpos

/-! ## Two collections -/

/-- The host name at a place is read off the list of host names. -/
theorem exists_standsAt_hostname_iff {nodes : List Node} {position : Int} {address : Text} :
    (∃ n, StandsAt nodes position n ∧ n.hostname = address) ↔
      StandsAt (nodes.map Node.hostname) position address := by
  constructor
  · rintro ⟨n, ⟨k, hk, hn⟩, rfl⟩
    exact ⟨k, hk, by rw [List.getElem?_map, hn, Option.map_some]⟩
  · rintro ⟨k, hk, hn⟩
    rw [List.getElem?_map, Option.map_eq_some_iff] at hn
    obtain ⟨n, hn, ha⟩ := hn
    exact ⟨n, ⟨k, hk, hn⟩, ha⟩

theorem AreMasters.mem_iff_mem {nodes nodes' : List Node} {partitions partitions' : List Partition}
    {addresses addresses' : List Text} (h : AreMasters nodes partitions addresses)
    (h' : AreMasters nodes' partitions' addresses')
    (hnames : nodes'.map Node.hostname = nodes.map Node.hostname)
    (hsame : SameMasters partitions partitions') (address : Text) :
    address ∈ addresses ↔ address ∈ addresses' := by
  rw [h.mem_iff, h'.mem_iff]
  apply exists_congr
  intro m
  rw [hsame m, exists_standsAt_hostname_iff, exists_standsAt_hostname_iff, hnames]

namespace BucketConfig

theorem isPrimary_of_normalize_error {c : BucketConfig} {host : Text} {fault : Address.Fault}
    (h : Address.normalize host = .error fault) : c.isPrimary host = false := by
  unfold isPrimary
  rw [h]

/-- Configs with the same addresses answer alike, for hosts without a normal form too. -/
theorem isPrimary_congr {c c' : BucketConfig}
    (h : ∀ address, address ∈ c.primaries ↔ address ∈ c'.primaries) (host : Text) :
    c'.isPrimary host = c.isPrimary host := by
  cases hn : Address.normalize host with
  | error fault => rw [isPrimary_of_normalize_error hn, isPrimary_of_normalize_error hn]
  | ok address =>
    rw [Bool.eq_iff_iff, isPrimary_iff_mem hn, isPrimary_iff_mem hn]
    exact (h address).symm

/-- **Owners of masters depend on the masters only.** A built config keeps the addresses of the
nodes that stand in the node list at the masters of the current map, each once. So two documents
whose nodes have the same addresses and whose current maps have the same masters give the same
answer for every host, and for one that has no normal form both say no. -/
theorem isPrimary_eq_of_sameMasters {log : Option Channel} {d : Document} {c : BucketConfig}
    (hb : (build log d).outcome = .ok c) :
    AreMasters d.nodes d.layout.partitions c.primaries ∧
      ∀ (log' : Option Channel) (d' : Document) (c' : BucketConfig),
        (build log' d').outcome = .ok c' →
        d'.nodes.map Node.hostname = d.nodes.map Node.hostname →
        SameMasters d.layout.partitions d'.layout.partitions →
        ∀ host, c'.isPrimary host = c.isPrimary host ∧
          ∀ fault, Address.normalize host = .error fault →
            c.isPrimary host = false ∧ c'.isPrimary host = false := by
  have hmasters : AreMasters d.nodes d.layout.partitions c.primaries :=
    areMasters_of_primaryHosts (builtFrom_of_build hb).primaries
  refine ⟨hmasters, ?_⟩
  intro log' d' c' hb' hnames hsame host
  have hmasters' : AreMasters d'.nodes d'.layout.partitions c'.primaries :=
    areMasters_of_primaryHosts (builtFrom_of_build hb').primaries
  refine ⟨isPrimary_congr (hmasters.mem_iff_mem hmasters' hnames hsame) host, ?_⟩
  intro fault hfault
  exact ⟨isPrimary_of_normalize_error hfault, isPrimary_of_normalize_error hfault⟩

/-- The bucket when it has settled: partitions without replicas, one of them new and one gone, and
the hosts in the other order. -/
def settled : Document :=
  { rebalancing with
    rev := 8
    layout :=
      { replicaCount := 0
        descriptors := [.str (Text.ofString "y:1"), .str (Text.ofString "x:1")]
        partitions := [⟨-1, []⟩, ⟨1, []⟩, ⟨1, []⟩]
        forward := none
        tainted := false } }

/-- The config of the settled bucket. -/
def settledConfig : BucketConfig :=
  { rebalanced with
    rev := 8
    layout := settled.layout
    hosts := settled.nodes.reverse }

theorem sameMasters_settled :
    SameMasters rebalancing.layout.partitions settled.layout.partitions := by
  intro ordinal
  simp [IsMaster, rebalancing, settled, or_comm]

/-- Host y owns a master before and after; an empty host never does. The second build writes to a
channel of its own. -/
theorem isPrimary_eq_of_sameMasters_settled :
    (build none rebalancing).outcome = .ok rebalanced ∧
      (build (some .bucket) settled).outcome = .ok settledConfig ∧
      settled.nodes.map Node.hostname = rebalancing.nodes.map Node.hostname ∧
      SameMasters rebalancing.layout.partitions settled.layout.partitions ∧
      Address.normalize (Text.ofString " ") = .error .empty ∧
      AreMasters rebalancing.nodes rebalancing.layout.partitions rebalanced.primaries ∧
      rebalanced.isPrimary (Text.ofString "[Y]") = true ∧
      settledConfig.isPrimary (Text.ofString "[Y]") = true ∧
      rebalanced.isPrimary (Text.ofString " ") = false ∧
      settledConfig.isPrimary (Text.ofString " ") = false := by
  have hb : (build (some .bucket) settled).outcome = .ok settledConfig := rfl
  have hempty : Address.normalize (Text.ofString " ") = .error .empty := rfl
  obtain ⟨hmasters, hall⟩ := isPrimary_eq_of_sameMasters build_rebalancing
  have hsame := hall (some .bucket) settled settledConfig hb rfl sameMasters_settled
  obtain ⟨hanswer, _⟩ := hsame (Text.ofString "[Y]")
  obtain ⟨_, hnone⟩ := hsame (Text.ofString " ")
  obtain ⟨hbefore, hafter⟩ := hnone .empty hempty
  have hyes : rebalanced.isPrimary (Text.ofString "[Y]") = true := rfl
  exact ⟨build_rebalancing, hb, rfl, sameMasters_settled, hempty, hmasters, hyes,
    hanswer.trans hyes, hbefore, hafter⟩

end BucketConfig

end BucketMap
