import BucketMap.Proofs.Lookup

/-!
# Nodes that own a master

The addresses of the nodes that own a master are collected when a config is built, and the masters'
ordinals are looked up in the node list for this (`mem_primaryHosts_iff`). Lookups read the same
ordinals as places of partition hosts. The two agree where the lists are ordered alike
(`BucketConfig.OrderedAlike`), but not in general: the query for masters speaks of the node list
(`BucketConfig.isPrimary_iff_masterAmong_nodes`, `BucketConfig.not_isPrimary_iff_masterAmong_hosts`).
-/

namespace BucketMap

/-! ## Collecting the addresses -/

theorem mem_distinct {t : Text} {ts : List Text} : t ∈ distinct ts ↔ t ∈ ts := by
  induction ts with
  | nil => rfl
  | cons first rest ih =>
    rw [distinct, List.mem_cons, List.mem_cons, List.mem_filter, ih]
    by_cases ht : t = first
    · simp [ht]
    · simp [ht]

/-- Some partition has its master at the place of a node with the address. -/
def OwnsMaster (nodes : List Node) (partitions : List Partition) (address : Text) : Prop :=
  ∃ q ∈ partitions, ∃ n, StandsAt nodes q.master n ∧ n.hostname = address

theorem ownsMaster_cons {nodes : List Node} {p : Partition} {partitions : List Partition}
    {address : Text} :
    OwnsMaster nodes (p :: partitions) address ↔
      (∃ n, StandsAt nodes p.master n ∧ n.hostname = address) ∨
        OwnsMaster nodes partitions address := by
  unfold OwnsMaster
  rw [List.exists_mem_cons_iff]

theorem masterHosts_eq_ok {nodes : List Node} {number : Nat} {partitions : List Partition}
    {addresses : List Text} (h : masterHosts nodes number partitions = .ok addresses) :
    (∀ q ∈ partitions, 0 ≤ q.master → ∃ n, StandsAt nodes q.master n) ∧
      ∀ address, address ∈ addresses ↔ OwnsMaster nodes partitions address := by
  induction partitions generalizing number addresses with
  | nil =>
    cases h
    simp [OwnsMaster]
  | cons p partitions ih =>
    rw [masterHosts] at h
    split at h
    · rename_i hneg
      obtain ⟨hplaces, hmem⟩ := ih h
      constructor
      · intro q hq hpos
        rcases List.mem_cons.mp hq with rfl | hq
        · omega
        · exact hplaces q hq hpos
      · intro address
        rw [hmem, ownsMaster_cons]
        -- An ordinal below zero is no place.
        have hno : ¬ ∃ n, StandsAt nodes p.master n ∧ n.hostname = address := by
          rintro ⟨n, hn, _⟩
          have hpos := hn.nonneg
          omega
        simp [hno]
    · rename_i hpos
      split at h
      · cases h
      · rename_i node hnode
        obtain ⟨others, hothers, h⟩ := bind_eq_ok_iff.mp h
        cases h
        obtain ⟨hplaces, hmem⟩ := ih hothers
        have hstands : StandsAt nodes p.master node :=
          ⟨p.master.toNat, (Int.toNat_of_nonneg (by omega)).symm, hnode⟩
        constructor
        · intro q hq hqpos
          rcases List.mem_cons.mp hq with rfl | hq
          · exact ⟨node, hstands⟩
          · exact hplaces q hq hqpos
        · intro address
          rw [List.mem_cons, hmem, ownsMaster_cons]
          have hhead : (∃ n, StandsAt nodes p.master n ∧ n.hostname = address) ↔
              address = node.hostname := by
            constructor
            · rintro ⟨n, hn, rfl⟩
              rw [hn.unique hstands]
            · rintro rfl
              exact ⟨node, hstands, rfl⟩
          rw [hhead]

theorem exists_masterHosts_of_primaryHosts {nodes : List Node} {partitions : List Partition}
    {primaries : List Text} (h : primaryHosts nodes partitions = .ok primaries) :
    ∃ addresses, masterHosts nodes 0 partitions = .ok addresses ∧
      primaries = distinct addresses := by
  unfold primaryHosts at h
  cases hm : masterHosts nodes 0 partitions with
  | error e => rw [hm] at h; cases h
  | ok addresses =>
    rw [hm] at h
    cases h
    exact ⟨addresses, rfl, rfl⟩

theorem mem_primaryHosts_iff {nodes : List Node} {partitions : List Partition}
    {primaries : List Text} (h : primaryHosts nodes partitions = .ok primaries) {address : Text} :
    address ∈ primaries ↔ OwnsMaster nodes partitions address := by
  obtain ⟨addresses, hm, rfl⟩ := exists_masterHosts_of_primaryHosts h
  rw [mem_distinct]
  exact (masterHosts_eq_ok hm).2 address

/-- Every master has a node in the node list. -/
theorem exists_node_of_primaryHosts {nodes : List Node} {partitions : List Partition}
    {primaries : List Text} (h : primaryHosts nodes partitions = .ok primaries) :
    ∀ q ∈ partitions, 0 ≤ q.master → ∃ n, StandsAt nodes q.master n := by
  obtain ⟨addresses, hm, _⟩ := exists_masterHosts_of_primaryHosts h
  exact (masterHosts_eq_ok hm).1

namespace BucketConfig

variable {log : Option Channel} {d : Document} {c : BucketConfig}

/-! ## Masters by lookup -/

/-- Some partition has a master, and the node that belongs to its ordinal has the address. -/
def MasterAmong (c : BucketConfig) (nodeOf : Int → Node → Prop) (address : Text) : Prop :=
  ∃ (p m : Int) (n : Node), 0 ≤ p ∧ p < c.partitionCount ∧
    (c.masterOrdinal p false).outcome = .ok m ∧ 0 ≤ m ∧ nodeOf m n ∧ n.hostname = address

theorem masterAmong_iff {nodeOf : Int → Node → Prop} {address : Text} :
    c.MasterAmong nodeOf address ↔
      ∃ q ∈ c.layout.partitions, 0 ≤ q.master ∧ ∃ n, nodeOf q.master n ∧ n.hostname = address := by
  have hm := map_false c
  constructor
  · rintro ⟨p, m, n, hp, hlt, hlook, hpos, hn, ha⟩
    have hin : ¬ Outside c.layout.partitions p := by
      unfold Outside
      unfold partitionCount at hlt
      omega
    obtain ⟨q, hq⟩ := exists_standsAt hin
    rw [masterOrdinal_of_standsAt hm hq] at hlook
    cases hlook
    exact ⟨q, hq.mem, hpos, n, hn, ha⟩
  · rintro ⟨q, hq, hpos, n, hn, ha⟩
    obtain ⟨k, hk⟩ := List.getElem?_of_mem hq
    obtain ⟨hlt, _⟩ := List.getElem?_eq_some_iff.mp hk
    refine ⟨k, q.master, n, by omega, ?_, masterOrdinal_of_standsAt hm ⟨k, rfl, hk⟩, hpos, hn, ha⟩
    unfold partitionCount
    omega

/-- The masters' ordinals are places of one address in the node list and among the hosts. -/
def OrderedAlike (c : BucketConfig) : Prop :=
  ∀ q ∈ c.layout.partitions, ∀ n host, StandsAt c.nodes q.master n →
    c.nodeAt q.master = .ok host → n.hostname = host.hostname

theorem BuiltFrom.mem_primaries_iff (h : BuiltFrom log d c) {address : Text} :
    address ∈ c.primaries ↔ c.MasterAmong (StandsAt c.nodes) address := by
  obtain ⟨_, _, _, _, hnodes, hlayout, _⟩ := h.fields
  rw [mem_primaryHosts_iff h.primaries, masterAmong_iff, hnodes, hlayout]
  constructor
  · rintro ⟨q, hq, n, hn, ha⟩
    exact ⟨q, hq, hn.nonneg, n, hn, ha⟩
  · rintro ⟨q, hq, _, n, hn, ha⟩
    exact ⟨q, hq, n, hn, ha⟩

theorem BuiltFrom.masterAmong_nodes_iff (h : BuiltFrom log d c) (halike : c.OrderedAlike)
    {address : Text} :
    c.MasterAmong (StandsAt c.nodes) address ↔
      c.MasterAmong (fun m n => c.nodeAt m = .ok n) address := by
  obtain ⟨_, _, _, _, hnodes, hlayout, _⟩ := h.fields
  have hplaces := exists_node_of_primaryHosts h.primaries
  rw [← hnodes, ← hlayout] at hplaces
  rw [masterAmong_iff, masterAmong_iff]
  constructor
  · rintro ⟨q, hq, hpos, n, hn, rfl⟩
    have hrange := h.current q hq q.master List.mem_cons_self
    rcases resolvable_of_inRange hrange with hown | ⟨host, hhost⟩
    · unfold noOwner at hown
      omega
    · exact ⟨q, hq, hpos, host, hhost, (halike q hq n host hn hhost).symm⟩
  · rintro ⟨q, hq, hpos, host, hhost, rfl⟩
    obtain ⟨n, hn⟩ := hplaces q hq hpos
    exact ⟨q, hq, hpos, n, hn, halike q hq n host hn hhost⟩

theorem isPrimary_iff_mem {host address : Text} (hn : Address.normalize host = .ok address) :
    c.isPrimary host = true ↔ address ∈ c.primaries := by
  unfold isPrimary
  rw [hn]
  exact decide_eq_true_iff

/-- **Owners of masters.** A built config says of a host that it owns a master exactly if the
ordinal of some master is the place of the host in the node list. Where the node list and the
partition hosts are ordered alike, the lookups say the same. -/
theorem isPrimary_iff_masterAmong_nodes {log : Option Channel} {d : Document} {c : BucketConfig}
    (hb : (build log d).outcome = .ok c) {host address : Text}
    (hn : Address.normalize host = .ok address) :
    (c.isPrimary host = true ↔ c.MasterAmong (StandsAt c.nodes) address) ∧
      (c.OrderedAlike →
        (c.isPrimary host = true ↔ c.MasterAmong (fun m n => c.nodeAt m = .ok n) address)) := by
  have hbuilt : BuiltFrom log d c := builtFrom_of_build hb
  have hnodes : c.isPrimary host = true ↔ c.MasterAmong (StandsAt c.nodes) address :=
    (isPrimary_iff_mem hn).trans hbuilt.mem_primaries_iff
  exact ⟨hnodes, fun halike => hnodes.trans (hbuilt.masterAmong_nodes_iff halike)⟩

theorem orderedAlike_rebalanced : rebalanced.OrderedAlike := by
  intro q _ n host hn hhost
  rw [nodeAt_eq_ok_iff] at hhost
  exact congrArg Node.hostname (hn.unique hhost)

/-- The nodes of this bucket are its partition hosts in one order. Host y owns a master. -/
theorem isPrimary_iff_masterAmong_rebalanced :
    (build none rebalancing).outcome = .ok rebalanced ∧
      Address.normalize (Text.ofString "[Y]") = .ok (Text.ofString "y") ∧
      rebalanced.OrderedAlike ∧ rebalanced.isPrimary (Text.ofString "[Y]") = true ∧
      rebalanced.MasterAmong (StandsAt rebalanced.nodes) (Text.ofString "y") ∧
      rebalanced.MasterAmong (fun m n => rebalanced.nodeAt m = .ok n) (Text.ofString "y") := by
  have hn : Address.normalize (Text.ofString "[Y]") = .ok (Text.ofString "y") := rfl
  have hyes : rebalanced.isPrimary (Text.ofString "[Y]") = true := rfl
  obtain ⟨hnodes, hhosts⟩ := isPrimary_iff_masterAmong_nodes build_rebalancing hn
  exact ⟨build_rebalancing, hn, orderedAlike_rebalanced, hyes, hnodes.mp hyes,
    (hhosts orderedAlike_rebalanced).mp hyes⟩

/-- The partition hosts of this bucket are its nodes in the other order. -/
def swapped : Document :=
  { rev := 1
    name := Text.ofString "b"
    uri := none
    streamingUri := none
    layout :=
      { replicaCount := 0
        descriptors := [.str (Text.ofString "b"), .str (Text.ofString "a")]
        partitions := [⟨0, []⟩]
        forward := none
        tainted := false }
    nodes := [⟨Text.ofString "a", [(.data, 1)]⟩, ⟨Text.ofString "b", [(.data, 1)]⟩]
    capabilities := none }

/-- The query for masters does not always agree with the lookups. -/
theorem not_isPrimary_iff_masterAmong_hosts :
    ¬ ∀ (log : Option Channel) (d : Document) (c : BucketConfig) (host address : Text),
      (build log d).outcome = .ok c → Address.normalize host = .ok address →
        (c.isPrimary host = true ↔ c.MasterAmong (fun m n => c.nodeAt m = .ok n) address) := by
  intro h
  let c : BucketConfig :=
    { rev := 1, name := Text.ofString "b", uri := none, streamingUri := none,
      nodes := swapped.nodes, layout := swapped.layout, hosts := swapped.nodes.reverse,
      primaries := [Text.ofString "a"], ephemeral := false }
  have hb : (build none swapped).outcome = .ok c := rfl
  have hn : Address.normalize (Text.ofString "a") = .ok (Text.ofString "a") := rfl
  have hprimary : c.isPrimary (Text.ofString "a") = true := rfl
  obtain ⟨p, m, n, hp, hlt, hlook, _, hat, ha⟩ := (h _ _ c _ _ hb hn).mp hprimary
  have hcount : c.partitionCount = 1 := rfl
  have hzero : p = 0 := by omega
  subst hzero
  -- The only partition has the master 0, which is the place of the node b among the hosts.
  have hmaster : (c.masterOrdinal 0 false).outcome = .ok 0 := rfl
  rw [hmaster] at hlook
  cases hlook
  have hhost : c.nodeAt 0 = .ok ⟨Text.ofString "b", [(.data, 1)]⟩ := rfl
  rw [hhost] at hat
  cases hat
  exact absurd ha (by decide)

end BucketConfig

end BucketMap
