import BucketMap.Proofs.PrimaryNodes

/-!
# When a config is built

A document is built into a config exactly if it passes every check of the build: its descriptors
give partition hosts, its masters have places in the node list, its ordinals have partition hosts,
and the integers that the report on the config names can be written
(`BucketConfig.exists_build_iff`).
-/

namespace BucketMap

/-! ## Masters in the node list -/

theorem exists_masterHosts_iff {nodes : List Node} {number : Nat} {partitions : List Partition} :
    (∃ addresses, masterHosts nodes number partitions = .ok addresses) ↔
      ∀ q ∈ partitions, q.master < nodes.length := by
  induction partitions generalizing number with
  | nil => simp [masterHosts]
  | cons p partitions ih =>
    rw [List.forall_mem_cons, ← @ih (number + 1), masterHosts]
    split
    · have hbelow : p.master < nodes.length := by omega
      simp [hbelow]
    · split
      · rename_i hnone
        rw [List.getElem?_eq_none_iff] at hnone
        refine iff_of_false ?_ (fun h => ?_)
        · rintro ⟨addresses, h⟩
          cases h
        · omega
      · rename_i node hnode
        obtain ⟨hlt, _⟩ := List.getElem?_eq_some_iff.mp hnode
        have hbelow : p.master < nodes.length := by omega
        simp only [bind_eq_ok_iff, hbelow, true_and]
        constructor
        · rintro ⟨_, addresses, h, _⟩
          exact ⟨addresses, h⟩
        · rintro ⟨addresses, h⟩
          exact ⟨_, addresses, h, rfl⟩

theorem exists_primaryHosts_iff {nodes : List Node} {partitions : List Partition} :
    (∃ primaries, primaryHosts nodes partitions = .ok primaries) ↔
      ∀ q ∈ partitions, q.master < nodes.length := by
  rw [← @exists_masterHosts_iff nodes 0]
  unfold primaryHosts
  cases masterHosts nodes 0 partitions with
  | error f => simp [Except.map]
  | ok addresses => simp [Except.map]

/-! ## The build -/

namespace BucketConfig

/-- The document passes every check of a build, with these partition hosts. -/
structure Buildable (log : Option Channel) (d : Document) (hosts : List Node) : Prop where
  resolved : (partitionHosts log d.nodes d.layout.descriptors).outcome = .ok hosts
  masters : ∀ q ∈ d.layout.partitions, q.master < d.nodes.length
  current : MapInRange hosts.length d.layout.partitions
  forward : ∀ partitions, d.layout.forward = some partitions → MapInRange hosts.length partitions
  rev_writable : Numeral.Writable d.rev
  replicaCount_writable : Numeral.Writable d.layout.replicaCount

/-- The report on a config is written if the integers that it names can be. -/
theorem outcome_report (log : Channel) (c : BucketConfig) (hrev : Numeral.Writable c.rev)
    (hcount : Numeral.Writable c.replicaCount) :
    (Run.emit log .debug ([.words "Built "] ++ c.message)).outcome = .ok () := by
  apply Run.outcome_emit
  refine Message.writable_append (by simp) ?_
  simpa [message] using ⟨hrev, hcount⟩

theorem exists_build_iff {log : Option Channel} {d : Document} :
    (∃ c, (build log d).outcome = .ok c) ↔ ∃ hosts, Buildable log d hosts := by
  constructor
  · rintro ⟨c, h⟩
    unfold build at h
    obtain ⟨hosts, hhosts, h⟩ := Run.outcome_bind_eq_ok_iff.mp h
    obtain ⟨primaries, hprimaries, h⟩ := Run.outcome_bind_eq_ok_iff.mp h
    obtain ⟨_, hcurrent, h⟩ := Run.outcome_bind_eq_ok_iff.mp h
    obtain ⟨_, hforward, h⟩ := Run.outcome_bind_eq_ok_iff.mp h
    dsimp only at h
    obtain ⟨_, hemit, _⟩ := Run.outcome_bind_eq_ok_iff.mp h
    exact ⟨hosts, hhosts, exists_primaryHosts_iff.mp ⟨primaries, hprimaries⟩,
      checkMap_eq_ok_iff.mp hcurrent, checkForward_eq_ok_iff.mp hforward,
      Run.writable_of_emit hemit (by simp [message]),
      Run.writable_of_emit hemit (by simp [message, replicaCount])⟩
  · rintro ⟨hosts, h⟩
    obtain ⟨primaries, hprimaries⟩ := exists_primaryHosts_iff.mpr h.masters
    have hresolved := h.resolved
    rw [partitionHosts_getD] at hresolved
    unfold build
    rw [Run.outcome_bind_of_ok hresolved, Run.outcome_bind_of_ok hprimaries,
      Run.outcome_bind_of_ok (checkMap_eq_ok_iff.mpr h.current),
      Run.outcome_bind_of_ok (checkForward_eq_ok_iff.mpr h.forward)]
    dsimp only
    rw [Run.outcome_bind_of_ok (outcome_report _ _ ?_ ?_)]
    · exact ⟨_, rfl⟩
    · exact h.rev_writable
    · exact h.replicaCount_writable

end BucketConfig

end BucketMap
