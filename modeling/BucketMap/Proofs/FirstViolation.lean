import BucketMap.Proofs.Buildable

/-!
# Which fault a build reports

Once the partition hosts are known, a build compares the masters of the current map with the node list,
then the ordinals of the current map with the partition hosts, and at last those of the fast-forward
map. The same ordinal may pass one of these checks and fail another. A build fails at the first fault in
this order (`FirstViolation`) and in no other way, and it gives a config exactly if there is none
(`BucketConfig.build_firstViolation`).

Each check goes through a list and stops at the first bad element (`FirstBad`), so what it reports is
told by one step (`exists_firstBad_cons`).
-/

namespace BucketMap

/-! ## The first bad element -/

/-- The element at the place is bad, and all elements in front of it are good. -/
def FirstBad {α : Type} (Good : α → Prop) (xs : List α) (place : Nat) (x : α) : Prop :=
  ∃ before after, xs = before ++ x :: after ∧ before.length = place ∧ (∀ y ∈ before, Good y) ∧ ¬ Good x

section FirstBad

variable {α : Type} {Good : α → Prop} {P : Nat → α → Prop} {x : α} {xs : List α}

theorem not_firstBad_nil (place : Nat) : ¬ FirstBad Good [] place x := by
  rintro ⟨before, after, h, -⟩
  simp at h

theorem FirstBad.mem {place : Nat} (h : FirstBad Good xs place x) : x ∈ xs := by
  obtain ⟨before, after, rfl, -⟩ := h
  simp

theorem FirstBad.not_good {place : Nat} (h : FirstBad Good xs place x) : ¬ Good x := by
  obtain ⟨before, after, -, -, -, hbad⟩ := h
  exact hbad

theorem exists_firstBad_cons :
    (∃ place y, FirstBad Good (x :: xs) place y ∧ P place y) ↔
      ¬ Good x ∧ P 0 x ∨ Good x ∧ ∃ place y, FirstBad Good xs place y ∧ P (place + 1) y := by
  constructor
  · rintro ⟨_, y, ⟨before, after, h, rfl, hgood, hbad⟩, hP⟩
    cases before with
    | nil =>
      cases h
      exact .inl ⟨hbad, hP⟩
    | cons z before =>
      cases h
      obtain ⟨hx, hbefore⟩ := List.forall_mem_cons.mp hgood
      exact .inr ⟨hx, before.length, y, ⟨before, after, rfl, rfl, hbefore, hbad⟩, hP⟩
  · rintro (⟨hbad, hP⟩ | ⟨hx, _, y, ⟨before, after, rfl, rfl, hgood, hbad⟩, hP⟩)
    · exact ⟨0, x, ⟨[], xs, rfl, rfl, by simp, hbad⟩, hP⟩
    · exact ⟨_, y, ⟨x :: before, after, rfl, rfl, List.forall_mem_cons.mpr ⟨hx, hgood⟩, hbad⟩, hP⟩

end FirstBad

/-! ## The faults -/

/-- The fault of an ordinal that is out of range. -/
def ordinalFault (hosts : Int) (map : Text) (partition : Nat) (ordinal : Int) : ConfigurationFault :=
  if ordinal < noOwner then .ordinalBelow partition map ordinal
  else .ordinalBeyond partition map ordinal hosts

/-- All ordinals of a partition are in range. -/
def RowInRange (hosts : Int) (p : Partition) : Prop := ∀ ordinal ∈ p.row, OrdinalInRange hosts ordinal

instance (hosts ordinal : Int) : Decidable (OrdinalInRange hosts ordinal) :=
  inferInstanceAs (Decidable (_ ∧ _))

instance (hosts : Int) (p : Partition) : Decidable (RowInRange hosts p) :=
  inferInstanceAs (Decidable (∀ ordinal ∈ p.row, OrdinalInRange hosts ordinal))

/-- The fault of the first ordinal of a map that is out of range: the partition comes first, and within
it the master before the replicas. -/
def MapViolation (hosts : Int) (map : Text) (partitions : List Partition)
    (fault : ConfigurationFault) : Prop :=
  ∃ number p, FirstBad (RowInRange hosts) partitions number p ∧
    ∃ place ordinal, FirstBad (OrdinalInRange hosts) p.row place ordinal ∧
      fault = ordinalFault hosts map number ordinal

/-- The master has a place in a node list of the given length, unless there is none. -/
def MasterInside (nodes : Nat) (p : Partition) : Prop := p.master < nodes

instance (nodes : Nat) (p : Partition) : Decidable (MasterInside nodes p) :=
  inferInstanceAs (Decidable (_ < _))

/-- The first fault of the maps of a document, for a number of nodes and of partition hosts. -/
inductive FirstViolation (nodes hosts : Nat) (l : Layout) : ConfigurationFault → Prop
  | master {number : Nat} {p : Partition}
      (first : FirstBad (MasterInside nodes) l.partitions number p) :
      FirstViolation nodes hosts l (.masterOutside p.master number nodes)
  | current {fault : ConfigurationFault} (masters : ∀ p ∈ l.partitions, MasterInside nodes p)
      (first : MapViolation hosts BucketConfig.currentName l.partitions fault) :
      FirstViolation nodes hosts l fault
  | forward {partitions : List Partition} {fault : ConfigurationFault}
      (masters : ∀ p ∈ l.partitions, MasterInside nodes p) (current : MapInRange hosts l.partitions)
      (given : l.forward = some partitions)
      (first : MapViolation hosts BucketConfig.forwardName partitions fault) :
      FirstViolation nodes hosts l fault

/-- The maps of a document agree with a number of nodes and of partition hosts. -/
structure Layout.Consistent (nodes hosts : Nat) (l : Layout) : Prop where
  masters : ∀ p ∈ l.partitions, MasterInside nodes p
  current : MapInRange hosts l.partitions
  forward : ∀ partitions, l.forward = some partitions → MapInRange hosts partitions

/-! ## The checks -/

/-- A check, and what follows if it is passed. -/
theorem check_bind_eq_error_iff {ε β : Type} {x : Except ε Unit} {y : Except ε β} {e : ε} :
    (x >>= fun _ => y) = .error e ↔ x = .error e ∨ x = .ok () ∧ y = .error e := by
  rw [bind_eq_error_iff]
  exact or_congr_right ⟨fun ⟨_, h⟩ => h, fun h => ⟨(), h⟩⟩

variable {hosts : Int} {map : Text} {number : Nat} {f : Failure}

theorem masterHosts_eq_error_iff {nodes : List Node} {partitions : List Partition} :
    masterHosts nodes number partitions = .error f ↔
      ∃ place p, FirstBad (MasterInside nodes.length) partitions place p ∧
        f = (Failure.configuration
          (.masterOutside p.master (number + place) nodes.length)).sayable := by
  induction partitions generalizing number with
  | nil => simp [masterHosts, not_firstBad_nil]
  | cons p partitions ih =>
    have hnext := @ih (number + 1)
    simp only [Nat.add_assoc, Nat.add_comm 1] at hnext
    rw [exists_firstBad_cons, ← hnext, masterHosts]
    unfold MasterInside
    split
    · have hinside : p.master < nodes.length := by omega
      simp [hinside]
    · split
      · rename_i hnone
        have hbeyond := List.getElem?_eq_none_iff.mp hnone
        have houtside : ¬ p.master < nodes.length := by omega
        simp [houtside, refuse, eq_comm]
      · rename_i node hnode
        obtain ⟨hlt, -⟩ := List.getElem?_eq_some_iff.mp hnode
        have hinside : p.master < nodes.length := by omega
        rw [bind_eq_error_iff]
        simp [hinside, pure, Except.pure]

theorem checkOrdinal_eq_error_iff {ordinal : Int} :
    checkOrdinal hosts map number ordinal = .error f ↔
      ¬ OrdinalInRange hosts ordinal ∧
        f = (Failure.configuration (ordinalFault hosts map number ordinal)).sayable := by
  unfold checkOrdinal ordinalFault OrdinalInRange
  split
  · rename_i hbelow
    have hout : ¬ (noOwner ≤ ordinal ∧ ordinal < hosts) := by omega
    simp [hout, refuse, eq_comm]
  · split
    · have hout : ¬ (noOwner ≤ ordinal ∧ ordinal < hosts) := by omega
      simp [hout, refuse, eq_comm]
    · have hin : noOwner ≤ ordinal ∧ ordinal < hosts := by omega
      simp [hin]

theorem checkRow_eq_error_iff {row : List Int} :
    checkRow hosts map number row = .error f ↔
      ∃ place ordinal, FirstBad (OrdinalInRange hosts) row place ordinal ∧
        f = (Failure.configuration (ordinalFault hosts map number ordinal)).sayable := by
  induction row with
  | nil => simp [checkRow, not_firstBad_nil]
  | cons ordinal row ih =>
    rw [checkRow, check_bind_eq_error_iff, checkOrdinal_eq_error_iff, checkOrdinal_eq_ok_iff,
      exists_firstBad_cons, ← ih]

theorem checkMapFrom_eq_error_iff {partitions : List Partition} :
    checkMapFrom hosts map number partitions = .error f ↔
      ∃ place p, FirstBad (RowInRange hosts) partitions place p ∧
        checkRow hosts map (number + place) p.row = .error f := by
  induction partitions generalizing number with
  | nil => simp [checkMapFrom, not_firstBad_nil]
  | cons p partitions ih =>
    have hnext := @ih (number + 1)
    simp only [Nat.add_assoc, Nat.add_comm 1] at hnext
    have hbad : checkRow hosts map number p.row = .error f → ¬ RowInRange hosts p := by
      intro herror hgood
      cases herror.symm.trans (checkRow_eq_ok_iff.mpr hgood)
    rw [exists_firstBad_cons, ← hnext, checkMapFrom, check_bind_eq_error_iff, checkRow_eq_ok_iff]
    exact or_congr_left (and_iff_right_of_imp hbad).symm

/-! ## What is reported -/

theorem writable_ordinalFault {ordinal : Int} (hhosts : 0 ≤ hosts) (ho : Numeral.Writable ordinal)
    (hout : ¬ OrdinalInRange hosts ordinal) :
    (ordinalFault hosts map number ordinal).message.Writable := by
  unfold ordinalFault
  split
  · simpa [ConfigurationFault.message] using ho
  · -- The number of hosts is shorter than the ordinal beyond it.
    have hle : hosts.natAbs ≤ ordinal.natAbs := by
      unfold OrdinalInRange at hout
      omega
    have hw : Numeral.Writable hosts := Nat.lt_of_le_of_lt hle ho
    simpa [ConfigurationFault.message] using ⟨ho, hw⟩

/-- What the check of a map reports, if its ordinals can be written. -/
theorem checkMap_eq_error_iff {partitions : List Partition} (hhosts : 0 ≤ hosts)
    (hw : ∀ p ∈ partitions, ∀ ordinal ∈ p.row, Numeral.Writable ordinal) :
    checkMap partitions hosts map = .error f ↔
      ∃ fault, MapViolation hosts map partitions fault ∧ f = .configuration fault := by
  have hsay : ∀ {number p place ordinal}, FirstBad (RowInRange hosts) partitions number p →
      FirstBad (OrdinalInRange hosts) p.row place ordinal →
        (Failure.configuration (ordinalFault hosts map number ordinal)).sayable =
          .configuration (ordinalFault hosts map number ordinal) := by
    intro number p place ordinal hp ho
    apply Failure.sayable_of_writable
    exact writable_ordinalFault hhosts (hw p hp.mem ordinal ho.mem) ho.not_good
  unfold checkMap MapViolation
  simp only [checkMapFrom_eq_error_iff, checkRow_eq_error_iff, Nat.zero_add]
  constructor
  · rintro ⟨number, p, hp, place, ordinal, ho, rfl⟩
    exact ⟨_, ⟨number, p, hp, place, ordinal, ho, rfl⟩, hsay hp ho⟩
  · rintro ⟨_, ⟨number, p, hp, place, ordinal, ho, rfl⟩, rfl⟩
    exact ⟨number, p, hp, place, ordinal, ho, (hsay hp ho).symm⟩

theorem primaryHosts_eq_error_iff {nodes : List Node} {partitions : List Partition}
    (hw : ∀ p ∈ partitions, Numeral.Writable p.master) :
    primaryHosts nodes partitions = .error f ↔
      ∃ place p, FirstBad (MasterInside nodes.length) partitions place p ∧
        f = .configuration (.masterOutside p.master place nodes.length) := by
  have hmap : primaryHosts nodes partitions = .error f ↔ masterHosts nodes 0 partitions = .error f := by
    unfold primaryHosts
    cases masterHosts nodes 0 partitions <;> simp [Except.map]
  have hsay : ∀ {place p}, FirstBad (MasterInside nodes.length) partitions place p →
      (Failure.configuration (.masterOutside p.master place nodes.length)).sayable =
        .configuration (.masterOutside p.master place nodes.length) := by
    intro place p hp
    apply Failure.sayable_of_writable
    simpa [Failure.message, ConfigurationFault.message] using hw p hp.mem
  rw [hmap, masterHosts_eq_error_iff]
  simp only [Nat.zero_add]
  constructor
  · rintro ⟨place, p, hp, rfl⟩
    exact ⟨place, p, hp, hsay hp⟩
  · rintro ⟨place, p, hp, rfl⟩
    exact ⟨place, p, hp, (hsay hp).symm⟩

namespace BucketConfig

theorem checkForward_eq_error_iff {hosts : Nat} {forward : Option (List Partition)} :
    checkForward hosts forward = .error f ↔
      ∃ partitions, forward = some partitions ∧
        checkMap partitions hosts forwardName = .error f := by
  cases forward with
  | none => simp [checkForward]
  | some partitions => simp [checkForward]

/-- All integers of a document that a build may name can be written. -/
structure IntegersWritable (d : Document) : Prop where
  rev : Numeral.Writable d.rev
  replicaCount : Numeral.Writable d.layout.replicaCount
  current : ∀ p ∈ d.layout.partitions, ∀ ordinal ∈ p.row, Numeral.Writable ordinal
  forward : ∀ partitions, d.layout.forward = some partitions →
    ∀ p ∈ partitions, ∀ ordinal ∈ p.row, Numeral.Writable ordinal

variable {log : Option Channel} {d : Document} {hosts : List Node}

/-- The steps of a build that can fail once the partition hosts are known. -/
theorem build_eq_error_iff
    (hhosts : (partitionHosts log d.nodes d.layout.descriptors).outcome = .ok hosts)
    (hw : IntegersWritable d) :
    (build log d).outcome = .error f ↔
      primaryHosts d.nodes d.layout.partitions = .error f ∨
        (∃ primaries, primaryHosts d.nodes d.layout.partitions = .ok primaries) ∧
          (checkMap d.layout.partitions hosts.length currentName = .error f ∨
            checkMap d.layout.partitions hosts.length currentName = .ok () ∧
              checkForward hosts.length d.layout.forward = .error f) := by
  rw [partitionHosts_getD] at hhosts
  unfold build
  rw [Run.outcome_bind_of_ok hhosts, Run.outcome_bind, Run.outcome_ofExcept, bind_eq_error_iff]
  simp only [Run.outcome_bind, Run.outcome_ofExcept, check_bind_eq_error_iff]
  -- The report on the config can be written, so that it does not fail.
  have hreport := fun primaries => outcome_report (log.getD .builder)
    { rev := d.rev, name := d.name, uri := d.uri, streamingUri := d.streamingUri, nodes := d.nodes,
      layout := d.layout, hosts := hosts, primaries := primaries,
      ephemeral := isEphemeral d.capabilities } hw.rev hw.replicaCount
  simp only [hreport]
  simp [pure, Run.ok]

/-- The maps of a document have a fault exactly if they do not agree with the counts. -/
theorem exists_build_iff_consistent
    (hhosts : (partitionHosts log d.nodes d.layout.descriptors).outcome = .ok hosts)
    (hw : IntegersWritable d) :
    (∃ c, (build log d).outcome = .ok c) ↔ d.layout.Consistent d.nodes.length hosts.length := by
  rw [exists_build_iff]
  constructor
  · rintro ⟨hosts', h⟩
    obtain rfl : hosts' = hosts := Except.ok.inj (h.resolved.symm.trans hhosts)
    exact ⟨h.masters, h.current, h.forward⟩
  · intro h
    exact ⟨hosts, hhosts, h.masters, h.current, h.forward, hw.rev, hw.replicaCount⟩

/-- **First violations.** With as many partition hosts as its descriptors give, a document is built
exactly if its maps agree with the number of nodes and of hosts. Otherwise the build is refused for
the first violation, and it fails in no other way. -/
theorem build_firstViolation
    (hhosts : (partitionHosts log d.nodes d.layout.descriptors).outcome = .ok hosts)
    (hw : IntegersWritable d) :
    ((∃ c, (build log d).outcome = .ok c) ↔ d.layout.Consistent d.nodes.length hosts.length) ∧
      ∀ f, (build log d).outcome = .error f ↔
        ∃ fault, FirstViolation d.nodes.length hosts.length d.layout fault ∧
          f = .configuration fault := by
  refine ⟨exists_build_iff_consistent hhosts hw, fun f => ?_⟩
  have hcount : (0 : Int) ≤ hosts.length := Int.natCast_nonneg _
  have hmasters : ∀ p ∈ d.layout.partitions, Numeral.Writable p.master :=
    fun p hp => hw.current p hp _ List.mem_cons_self
  rw [build_eq_error_iff hhosts hw, primaryHosts_eq_error_iff hmasters, exists_primaryHosts_iff,
    checkMap_eq_error_iff hcount hw.current, checkMap_eq_ok_iff, checkForward_eq_error_iff]
  constructor
  · rintro (⟨place, p, hp, rfl⟩ | ⟨hinside, ⟨fault, hfault, rfl⟩ | ⟨hcurrent, partitions, hgiven, h⟩⟩)
    · exact ⟨_, .master hp, rfl⟩
    · exact ⟨fault, .current hinside hfault, rfl⟩
    · obtain ⟨fault, hfault, rfl⟩ := (checkMap_eq_error_iff hcount (hw.forward _ hgiven)).mp h
      exact ⟨fault, .forward hinside hcurrent hgiven hfault, rfl⟩
  · rintro ⟨fault, hviolation, rfl⟩
    cases hviolation with
    | master hp => exact .inl ⟨_, _, hp, rfl⟩
    | current hinside hfault => exact .inr ⟨hinside, .inl ⟨fault, hfault, rfl⟩⟩
    | forward hinside hcurrent hgiven hfault =>
      have hcheck := (checkMap_eq_error_iff hcount (hw.forward _ hgiven)).mpr ⟨fault, hfault, rfl⟩
      exact .inr ⟨hinside, .inr ⟨hcurrent, _, hgiven, hcheck⟩⟩

/-- In the fast-forward map of this bucket the second partition has a master without a host, and a
replica that is no ordinal at all. -/
def straying : Document :=
  { rebalancing with
    layout := { rebalancing.layout with forward := some [⟨0, [1, -1]⟩, ⟨2, [-2]⟩] } }

theorem integersWritable_straying : IntegersWritable straying := by
  have hshort : ∀ n : Int, n.natAbs < 10 → Numeral.Writable n :=
    fun n hn => Numeral.fits_of_lt_ten hn (by decide)
  have hcurrent : ∀ p ∈ straying.layout.partitions, ∀ ordinal ∈ p.row, ordinal.natAbs < 10 := by
    decide
  have hforward : ∀ p ∈ straying.layout.forward.getD [], ∀ ordinal ∈ p.row, ordinal.natAbs < 10 := by
    decide
  refine ⟨hshort _ (by decide), hshort _ (by decide), ?_, ?_⟩
  · exact fun p hp ordinal ho => hshort ordinal (hcurrent p hp ordinal ho)
  · intro partitions hgiven p hp ordinal ho
    rw [hgiven] at hforward
    exact hshort ordinal (hforward p hp ordinal ho)

/-- The current map is consistent, and the master comes before the replica. -/
theorem build_firstViolation_straying :
    (partitionHosts none straying.nodes straying.layout.descriptors).outcome =
        .ok rebalancing.nodes ∧
      IntegersWritable straying ∧ ¬ straying.layout.Consistent 2 2 ∧
      (build none straying).outcome =
        .error (.configuration (.ordinalBeyond 1 forwardName 2 2)) := by
  have hhosts : (partitionHosts none straying.nodes straying.layout.descriptors).outcome =
      .ok rebalancing.nodes := rfl
  obtain ⟨hbuilds, hfails⟩ := build_firstViolation hhosts integersWritable_straying
  have hmasters : ∀ p ∈ straying.layout.partitions, MasterInside 2 p := by decide
  have hcurrent : ∀ p ∈ straying.layout.partitions, RowInRange 2 p := by decide
  have hfirst : MapViolation 2 forwardName [⟨0, [1, -1]⟩, ⟨2, [-2]⟩]
      (.ordinalBeyond 1 forwardName 2 2) :=
    ⟨1, ⟨2, [-2]⟩, ⟨[⟨0, [1, -1]⟩], [], rfl, rfl, by decide, by decide⟩,
      0, 2, ⟨[], [-2], rfl, rfl, by decide, by decide⟩, rfl⟩
  have herror := (hfails _).mpr ⟨_, .forward hmasters hcurrent rfl hfirst, rfl⟩
  refine ⟨hhosts, integersWritable_straying, fun hconsistent => ?_, herror⟩
  obtain ⟨c, hc⟩ := hbuilds.mpr hconsistent
  cases hc.symm.trans herror

end BucketConfig

end BucketMap
