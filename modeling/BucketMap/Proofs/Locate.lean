import BucketMap.Proofs.Holder
import BucketMap.Proofs.KeyPartition
import BucketMap.Proofs.Lookup

/-!
# Locating keys

To locate a key is to read the map that is in use: the owner is the partition host of the ordinal
that the map lists for the key's partition and the replica (`BucketConfig.Listed`), and there is
none if the map lists no ordinal or one below zero. This holds after any history of proposals
(`Holder.locate_reads_map`): the ordinals of a built config have hosts, so none is missed.
-/

namespace BucketMap

namespace BucketConfig

variable {c : BucketConfig} {partitions : List Partition} {forward : Bool} {p replica o : Int}

/-- The map lists the ordinal: as the master's for zero, as the n-th replica's for n. -/
def Listed (partitions : List Partition) (p replica o : Int) : Prop :=
  ∃ q, StandsAt partitions p q ∧
    ((replica = 0 ∧ o = q.master) ∨ StandsAt q.replicas (replica - 1) o)

theorem listed_zero_iff :
    Listed partitions p 0 o ↔ ∃ q, StandsAt partitions p q ∧ o = q.master := by
  unfold Listed
  constructor
  · rintro ⟨q, hq, ⟨_, ho⟩ | ho⟩
    · exact ⟨q, hq, ho⟩
    · have hpos := ho.nonneg
      omega
  · rintro ⟨q, hq, ho⟩
    exact ⟨q, hq, .inl ⟨rfl, ho⟩⟩

theorem listed_iff_replicaAt (hne : replica ≠ 0) :
    Listed partitions p replica o ↔ ReplicaAt partitions p (replica - 1) o := by
  unfold Listed ReplicaAt
  simp [hne]

theorem Sound.listed_inRange (hs : c.Sound) (hm : c.map forward = .ok partitions)
    (hl : Listed partitions p replica o) : OrdinalInRange c.hosts.length o := by
  obtain ⟨q, hq, ⟨_, rfl⟩ | ho⟩ := hl
  · exact hs.map_inRange hm q hq.mem _ List.mem_cons_self
  · exact hs.map_inRange hm q hq.mem o (List.mem_cons_of_mem _ ho.mem)

end BucketConfig

open BucketConfig

namespace Holder

variable {c : BucketConfig} {partitions : List Partition} {forward : Bool} {replica o : Int}

/-! ## The ordinal of the owner -/

theorem ownerOrdinal_of_listed {p : Int} (hm : c.map forward = .ok partitions)
    (hl : Listed partitions p replica o) :
    (ownerOrdinal c p replica forward).outcome = .ok o := by
  unfold ownerOrdinal
  split
  · rename_i hzero
    rw [hzero] at hl
    obtain ⟨q, hq, rfl⟩ := listed_zero_iff.mp hl
    exact masterOrdinal_of_standsAt hm hq
  · rename_i hne
    exact replicaOrdinal_of_replicaAt hm ((listed_iff_replicaAt hne).mp hl)

theorem ownerOrdinal_of_not_listed {p : Int} (hm : c.map forward = .ok partitions)
    (hp : Numeral.Writable p) (hr : Numeral.Writable (replica - 1))
    (hno : ¬ ∃ o, Listed partitions p replica o) :
    (ownerOrdinal c p replica forward).outcome = .ok notExistent := by
  unfold ownerOrdinal
  split
  · rename_i hzero
    rw [hzero] at hno
    apply masterOrdinal_of_outside hm hp
    by_contra hin
    obtain ⟨q, hq⟩ := exists_standsAt hin
    exact hno ⟨q.master, listed_zero_iff.mpr ⟨q, hq, rfl⟩⟩
  · rename_i hne
    apply replicaOrdinal_of_outside hm hp hr
    by_contra hin
    obtain ⟨ordinal, ho⟩ := exists_replicaAt hin
    exact hno ⟨ordinal, (listed_iff_replicaAt hne).mpr ho⟩

/-! ## The node of an ordinal -/

theorem writable_noOwner : Numeral.Writable noOwner :=
  Numeral.fits_of_lt_ten (by decide) (by decide)

theorem writable_notExistent : Numeral.Writable notExistent :=
  Numeral.fits_of_lt_ten (by decide) (by decide)

theorem ownerAt_of_neg {p : Nat} (hr : Numeral.Writable replica) (ho : Numeral.Writable o)
    (hneg : o < 0) : (ownerAt c p replica o).outcome = .ok none := by
  unfold ownerAt
  rw [if_pos hneg, Run.outcome_bind_of_ok (Run.outcome_emit (by simpa using ⟨hr, ho⟩))]
  rfl

theorem ownerAt_of_standsAt {p : Nat} {n : Node} (hn : StandsAt c.hosts o n) :
    (ownerAt c p replica o).outcome = .ok (some n) := by
  have hpos := hn.nonneg
  unfold ownerAt
  rw [if_neg (by omega), nodeAt_eq_ok_iff.mpr hn]
  rfl

/-! ## The owner of a key -/

variable {key : Key} {p : Nat}

theorem locateIn_outcome (hcount : c.partitionCount ≠ 0)
    (hp : key.partition c.partitionCount = .ok p)
    (ho : (ownerOrdinal c p replica forward).outcome = .ok o) :
    (locateIn c key replica forward).outcome = (ownerAt c p replica o).outcome := by
  unfold locateIn
  rw [if_neg hcount, Run.outcome_bind_of_ok hp, Run.outcome_bind_of_ok ho]

theorem locateIn_of_listed (hs : c.Sound) (hcount : c.partitionCount ≠ 0)
    (hp : key.partition c.partitionCount = .ok p) (hm : c.map forward = .ok partitions)
    (hl : Listed partitions p replica o) (hpos : 0 ≤ o) :
    ∃ n, StandsAt c.hosts o n ∧ (locateIn c key replica forward).outcome = .ok (some n) := by
  obtain ⟨_, hlt⟩ := hs.listed_inRange hm hl
  have hin : ¬ Outside c.hosts o := by
    unfold Outside
    omega
  obtain ⟨n, hn⟩ := exists_standsAt hin
  refine ⟨n, hn, ?_⟩
  rw [locateIn_outcome hcount hp (ownerOrdinal_of_listed hm hl)]
  exact ownerAt_of_standsAt hn

theorem locateIn_of_not_listed (hs : c.Sound) (hcount : c.partitionCount ≠ 0)
    (hp : key.partition c.partitionCount = .ok p) (hm : c.map forward = .ok partitions)
    (hr : Numeral.Fits 4000 replica) (hno : ¬ ∃ o, Listed partitions p replica o ∧ 0 ≤ o) :
    (locateIn c key replica forward).outcome = .ok none := by
  have hpw : Numeral.Writable p := Key.writable_of_partition hp
  have hrw : Numeral.Writable replica := hr.writable (by decide)
  have hrw' : Numeral.Writable (replica - 1) := hr.sub_one.writable (by decide)
  by_cases hl : ∃ o, Listed partitions p replica o
  · obtain ⟨o, ho⟩ := hl
    have hneg : o < 0 := by
      by_contra hpos
      exact hno ⟨o, ho, by omega⟩
    -- The only ordinal below zero in the maps of a built config marks a missing owner.
    obtain ⟨hlow, _⟩ := hs.listed_inRange hm ho
    have hown : o = noOwner := by
      unfold noOwner at hlow ⊢
      omega
    rw [locateIn_outcome hcount hp (ownerOrdinal_of_listed hm ho), hown]
    exact ownerAt_of_neg hrw writable_noOwner (by decide)
  · rw [locateIn_outcome hcount hp (ownerOrdinal_of_not_listed hm hpw hrw' hl)]
    exact ownerAt_of_neg hrw writable_notExistent (by decide)

/-- To locate the key is to read these partitions: it gives the host of the owner's ordinal in them,
which is a node of the config, or nobody if they list no ordinal from zero on. -/
structure Reads (h : Holder) (c : BucketConfig) (key : Key) (replica : Int) (forward : Bool) (p : Nat)
    (partitions : List Partition) (owner : Option Node) : Prop where
  outcome : (h.locate key replica forward).outcome = .ok owner
  listed : ∀ o, Listed partitions p replica o → 0 ≤ o →
    ∃ n, StandsAt c.hosts o n ∧ owner = some n
  not_listed : (¬ ∃ o, Listed partitions p replica o ∧ 0 ≤ o) → owner = none
  mem : ∀ n, owner = some n → n ∈ c.nodes

theorem exists_reads {h : Holder} (hc : h.current = some c) (hs : c.Sound)
    (hcount : c.partitionCount ≠ 0) (hp : key.partition c.partitionCount = .ok p)
    (hm : c.map forward = .ok partitions) (hreplica : Numeral.Fits 4000 replica) :
    ∃ owner, Reads h c key replica forward p partitions owner := by
  have hlocate : h.locate key replica forward = locateIn c key replica forward := by
    unfold locate
    rw [hc]
  by_cases hl : ∃ o, Listed partitions p replica o ∧ 0 ≤ o
  · obtain ⟨o, ho, hpos⟩ := hl
    obtain ⟨n, hn, howner⟩ := locateIn_of_listed hs hcount hp hm ho hpos
    refine ⟨some n, hlocate ▸ howner, ?_, ?_, ?_⟩
    · intro o' ho' hpos'
      obtain ⟨n', hn', howner'⟩ := locateIn_of_listed hs hcount hp hm ho' hpos'
      rw [howner] at howner'
      cases howner'
      exact ⟨n, hn', rfl⟩
    · intro hno
      exact absurd ⟨o, ho, hpos⟩ hno
    · intro n' hsome
      cases hsome
      exact hs.hosts_mem n hn.mem
  · refine ⟨none, hlocate ▸ locateIn_of_not_listed hs hcount hp hm hreplica hl, ?_, ?_, ?_⟩
    · intro o ho hpos
      exact absurd ⟨o, ho, hpos⟩ hl
    · intro _
      rfl
    · intro n hsome
      cases hsome

/-- **Routing reads the map.** The holder is reached by any history of proposals. A key is looked up
in the current map, and in the fast-forward map if that is asked for and there is one. -/
theorem locate_reads_map {h : Holder} {c : BucketConfig} (hr : h.Reachable)
    (hc : h.current = some c) (hcount : c.partitionCount.isPowerOfTwo) {key : Key}
    (hkey : key.Encodable) {replica : Int} (hreplica : Numeral.Fits 4000 replica) :
    ∃ p, key.partition c.partitionCount = .ok p ∧
      (∃ owner, Reads h c key replica false p c.layout.partitions owner) ∧
      ∀ partitions, c.layout.forward = some partitions →
        ∃ owner, Reads h c key replica true p partitions owner := by
  have hs : c.Sound := (hr.built c hc).sound
  have hne : c.partitionCount ≠ 0 := by
    have hpos := Nat.pos_of_isPowerOfTwo hcount
    omega
  obtain ⟨b, hb⟩ := Key.exists_bytes_of_encodable hkey
  have hp := Key.partition_of_isPowerOfTwo hb hcount
  refine ⟨_, hp, exists_reads hc hs hne hp (map_false c) hreplica, fun partitions hforward => ?_⟩
  exact exists_reads hc hs hne hp (map_true_of_forward hforward) hreplica

/-- The key belongs to the second partition, whose first replica is at host x. The fast-forward map has
one partition only, so nobody is to own the key. -/
theorem locate_reads_map_rebalanced :
    let key : Key := .text (Text.ofString "a")
    let h : Holder := ((⟨none⟩ : Holder).propose rebalanced).1
    h.Reachable ∧ h.current = some rebalanced ∧ rebalanced.partitionCount.isPowerOfTwo ∧
      key.Encodable ∧ Numeral.Fits 4000 1 ∧ key.partition rebalanced.partitionCount = .ok 1 ∧
      rebalanced.layout.partitions = [⟨1, [0]⟩, ⟨-1, [0]⟩] ∧
      (h.locate key 1 false).outcome = .ok (some ⟨Text.ofString "x", [(.data, 1)]⟩) ∧
      rebalanced.layout.forward = some [⟨0, [1, -1]⟩] ∧
      (h.locate key 1 true).outcome = .ok none := by
  intro key h
  have hbuilt : rebalanced.Built := ⟨none, rebalancing, build_rebalancing⟩
  have hr : h.Reachable := .proposed .empty hbuilt
  have hcount : rebalanced.partitionCount.isPowerOfTwo := ⟨1, rfl⟩
  have hkey : key.Encodable := by
    unfold Key.Encodable
    decide
  have hone : Numeral.Fits 4000 1 := Numeral.fits_of_lt_ten (by decide) (by decide)
  have hforward : rebalanced.layout.forward = some [⟨0, [1, -1]⟩] := rfl
  have hp : key.partition rebalanced.partitionCount = .ok 1 := rfl
  obtain ⟨p, hp', ⟨owner, hnow⟩, hahead⟩ := locate_reads_map hr rfl hcount hkey hone
  obtain ⟨owner', hlater⟩ := hahead _ hforward
  obtain rfl : 1 = p := Except.ok.inj (hp.symm.trans hp')
  have hreplica : Listed rebalanced.layout.partitions (1 : Nat) 1 0 :=
    ⟨⟨-1, [0]⟩, ⟨1, rfl, rfl⟩, .inr ⟨0, rfl, rfl⟩⟩
  obtain ⟨n, hn, rfl⟩ := hnow.listed 0 hreplica (by decide)
  have hx : StandsAt rebalanced.hosts 0 ⟨Text.ofString "x", [(.data, 1)]⟩ := ⟨0, rfl, rfl⟩
  obtain rfl := hx.unique hn
  have hno : ¬ ∃ o, Listed [(⟨0, [1, -1]⟩ : Partition)] (1 : Nat) 1 o ∧ 0 ≤ o := by
    rintro ⟨o, ⟨q, hq, -⟩, -⟩
    exact hq.not_outside (.inr (by decide))
  obtain rfl := hlater.not_listed hno
  exact ⟨hr, rfl, hcount, hkey, hone, hp, rfl, hnow.outcome, hforward, hlater.outcome⟩

end Holder

end BucketMap
