import BucketMap.Proofs.PrintedLines
import BucketMap.Proofs.ReportedFailures
import BucketMap.Proofs.ShortNumeral

/-!
# Reports on owners

The inspector looks for the partition of a key on its own before it locates the key, so its report
has two sources. `Inspector.Tells` says that the report and the located owner agree. Once the level
of the log is settled, and the stream takes what is printed (`Inspector.Takes`), they do exactly if
the bucket has partitions (`Inspector.run_tells_iff`): without any, nobody owns the key, but the
inspector reports that it could not be located (`Inspector.not_run_tells`).

* What the report writes is short enough: the replica is read from the command line
  (`Arguments.writable_of_read`), and the numbers of the summary were written when the config was
  built (`BucketConfig.writable_of_build`).
* A stream of UTF-8 takes the report unless the name of the bucket or the address of a partition host
  has surrogates (`Inspector.takes_utf8_iff`).
-/

namespace BucketMap

/-! ## The replica of a command line -/

/-- A number that is given can be written. -/
def Given.Writable (replica : Given Int) : Prop := ∀ n, replica = .value n → Numeral.Writable n

namespace Arguments

variable {p q : Progress} {s : Switch} {given : Given Text} {words : List Word}

theorem replica_takeArgument (p : Progress) (t : Text) :
    (takeArgument p t).replica = p.replica := by
  unfold takeArgument
  split <;> rfl

theorem replica_takeFlag (p : Progress) (s : Switch) : (takeFlag p s).replica = p.replica := by
  cases s <;> rfl

theorem replica_foldl_leave (p : Progress) (ts : List Text) :
    (ts.foldl leave p).replica = p.replica := by
  induction ts generalizing p with
  | nil => rfl
  | cons t ts ih => exact ih (leave p t)

theorem replica_takeRest (p : Progress) (rest : List Word) :
    (takeRest p rest).replica = p.replica := by
  unfold takeRest
  split
  · rw [replica_foldl_leave, replica_takeArgument]
  · exact replica_foldl_leave _ _

theorem writable_takeValue (hp : p.replica.Writable) (h : takeValue p s given = .ok q) :
    q.replica.Writable := by
  unfold takeValue at h
  split at h
  · split at h
    · rename_i hread
      cases h
      intro m hm
      cases hm
      exact Numeral.writable_of_read hread
    · cases h
  · cases h
    intro m hm
    cases hm
  · cases h
    exact hp

theorem writable_take (hp : p.replica.Writable) (h : take p words = .ok (some q)) :
    q.replica.Writable := by
  fun_induction take p words with
  | case1 => cases h; exact hp
  | case2 => cases h; rwa [replica_foldl_leave, replica_takeArgument]
  | case3 => cases h; rwa [replica_takeRest]
  | case4 p t _ _ ih => exact ih (by rwa [replica_takeArgument]) h
  | case5 => cases h; rwa [replica_takeRest]
  | case6 p t _ ih => exact ih hp h
  | case7 p s _ value _ _ ih =>
    obtain ⟨p', hp', h⟩ := bind_eq_ok_iff.mp h
    exact ih p' (writable_takeValue hp hp') h
  | case11 p s _ _ t _ ih =>
    obtain ⟨p', hp', h⟩ := bind_eq_ok_iff.mp h
    exact ih p' (writable_takeValue hp hp') h
  | case14 p s _ _ _ _ ih => exact ih (by rwa [replica_takeFlag]) h
  | case8 | case9 | case10 | case12 | case13 => cases h

theorem writable_of_read {debug : Bool} {line : List Text} {arguments : Arguments}
    (h : read debug line = .ok (.inspect arguments)) : arguments.replica.Writable := by
  unfold read at h
  obtain ⟨words, _, h⟩ := bind_eq_ok_iff.mp h
  obtain ⟨taken, htaken, h⟩ := bind_eq_ok_iff.mp h
  have hzero : (Given.value (0 : Int)).Writable := by
    rintro n hn
    cases hn
    exact Numeral.fits_of_lt_ten (by decide) (by decide)
  split at h
  · cases h
  · rename_i q
    have hq : q.replica.Writable := writable_take hzero htaken
    split at h
    · cases h
    · cases h
      exact hq
    · cases h

end Arguments

/-! ## The summary of a config -/

/-- The numbers of a config were written when it was built. -/
theorem BucketConfig.writable_of_build {log : Option Channel} {d : Document} {c : BucketConfig}
    (h : (build log d).outcome = .ok c) :
    Numeral.Writable c.rev ∧ Numeral.Writable c.replicaCount := by
  unfold build at h
  obtain ⟨_, _, h⟩ := Run.outcome_bind_eq_ok_iff.mp h
  obtain ⟨_, _, h⟩ := Run.outcome_bind_eq_ok_iff.mp h
  obtain ⟨_, _, h⟩ := Run.outcome_bind_eq_ok_iff.mp h
  obtain ⟨_, _, h⟩ := Run.outcome_bind_eq_ok_iff.mp h
  dsimp only at h
  obtain ⟨_, hemit, h⟩ := Run.outcome_bind_eq_ok_iff.mp h
  cases h
  constructor
  · exact Run.writable_of_emit hemit (by simp [message])
  · exact Run.writable_of_emit hemit (by simp [message])

namespace Inspector

variable {printer : Printer} {c : BucketConfig} {key : Text} {replica : Int} {forward : Bool}
  {p : Nat} {f : Failure}

theorem writable_of_mem_hostLines (c : BucketConfig) (index : Nat) (hosts : List Node) :
    ∀ m ∈ hostLines c index hosts, m.Writable := by
  induction hosts generalizing index with
  | nil => simp [hostLines]
  | cons host hosts ih =>
    refine List.forall_mem_cons.mpr ⟨?_, ih (index + 1)⟩
    unfold hostLine
    split <;> simp

theorem writable_of_mem_summary (hrev : Numeral.Writable c.rev)
    (hcount : Numeral.Writable c.replicaCount) : ∀ m ∈ summary c, m.Writable := by
  refine List.forall_mem_append.mpr ⟨?_, writable_of_mem_hostLines c 0 c.hosts⟩
  simp [headLines, hrev, hcount]

theorem encodable_hostLines_iff (c : BucketConfig) (index : Nat) (hosts : List Node) :
    (∀ m ∈ hostLines c index hosts, ∀ piece ∈ m, piece.Encodable) ↔
      ∀ host ∈ hosts, host.hostname.Encodable := by
  induction hosts generalizing index with
  | nil => simp [hostLines]
  | cons host hosts ih =>
    have hfirst : (∀ piece ∈ hostLine c index host, piece.Encodable) ↔ host.hostname.Encodable := by
      unfold hostLine
      split <;> simp
    rw [hostLines, List.forall_mem_cons, List.forall_mem_cons, ih, hfirst]

theorem encodable_summary_iff :
    (∀ m ∈ summary c, ∀ piece ∈ m, piece.Encodable) ↔
      c.name.Encodable ∧ ∀ host ∈ c.hosts, host.hostname.Encodable := by
  unfold summary
  rw [List.forall_mem_append, encodable_hostLines_iff]
  simp [headLines]

/-! ## The line for an owner -/

/-- The line for a key, its partition and its owner, without its end. -/
def ownerText (key : Text) (partition : Nat) (replica : Int) (owner : Text) : Text :=
  Text.ofString "Key " ++ key ++ Text.ofString " -> partition " ++ Numeral.natural partition ++
    Text.ofString ", replica " ++ Numeral.numeral replica ++ Text.ofString ": " ++ owner

/-- The words for an owner. -/
def ownerName : Option Node → Text
  | some node => node.hostname
  | none => Text.ofString "none"

theorem render_ownerLine (h : Numeral.Writable replica) (key : Text) (partition : Nat)
    (owner : Option Node) :
    (ownerLine key partition replica owner).render =
      .ok (ownerText key partition replica (ownerName owner)) := by
  have hreplica := Numeral.write_of_writable h
  unfold ownerLine ownerText ownerName
  cases owner <;>
    simp [Message.render, Piece.render, hreplica, bind, Except.bind, pure, Except.pure]

/-! ## The part for a key -/

theorem outcome_locate_of_partition_error
    (hp : (Key.text key).partition c.partitionCount = .error f) :
    (locate c key replica forward).outcome = .error f := by
  unfold locate
  rw [Run.outcome_bind, Run.outcome_ofExcept, hp]
  rfl

theorem outcome_locate_of_error (hp : (Key.text key).partition c.partitionCount = .ok p)
    (hf : (Holder.locate ⟨some c⟩ (.text key) replica forward).outcome = .error f) :
    (locate c key replica forward).outcome = .error f := by
  unfold locate
  rw [Run.outcome_bind_of_ok hp, Run.outcome_bind, hf]
  rfl

theorem outcome_locate_of_ok {owner : Option Node}
    (hp : (Key.text key).partition c.partitionCount = .ok p)
    (ho : (Holder.locate ⟨some c⟩ (.text key) replica forward).outcome = .ok owner) :
    (locate c key replica forward).outcome = .ok (p, owner) := by
  unfold locate
  rw [Run.outcome_bind_of_ok hp, Run.outcome_bind_of_ok ho]
  rfl

theorem keyPart_of_error (printer : Printer)
    (h : (locate c key replica forward).outcome = .error f) (hf : isReported f = true) :
    (keyPart printer c key (.value replica) forward).ending = .returned 1 := by
  unfold keyPart
  dsimp only
  rw [h]
  dsimp only
  unfold notLocated
  rw [if_pos hf]

theorem keyPart_of_located {owner : Option Node} (printer : Printer)
    (h : (locate c key replica forward).outcome = .ok (p, owner)) :
    keyPart printer c key (.value replica) forward =
      Part.ofMessage printer (ownerLine key p replica owner) 0 (locate c key replica forward).log := by
  unfold keyPart
  dsimp only
  rw [h]

theorem keyPart_of_ok {owner : Option Node} (hw : Numeral.Writable replica)
    (h : (locate c key replica forward).outcome = .ok (p, owner))
    (ht : printer (ownerText key p replica (ownerName owner)) = .ok ()) :
    (keyPart printer c key (.value replica) forward).ending = .returned 0 ∧
      (keyPart printer c key (.value replica) forward).output =
        ownerText key p replica (ownerName owner) ++ Text.ofString "\n" := by
  rw [keyPart_of_located printer h, Part.ofMessage,
    printLine_of_ok (render_ownerLine hw key p owner) ht]
  exact ⟨rfl, rfl⟩

/-- A line for the owner that the stream refuses stops the inspector. -/
theorem keyPart_of_refused {owner : Option Node} (hw : Numeral.Writable replica)
    (h : (locate c key replica forward).outcome = .ok (p, owner))
    (ht : printer (ownerText key p replica (ownerName owner)) = .error f) :
    (keyPart printer c key (.value replica) forward).ending = .stopped (.failure f) := by
  rw [keyPart_of_located printer h, Part.ofMessage,
    printLine_of_error (render_ownerLine hw key p owner) ht]

theorem ownerPart_of_value {arguments : Arguments} (printer : Printer) (c : BucketConfig)
    (hkey : arguments.key = .value key) (hreplica : arguments.replica = .value replica) :
    ownerPart printer c arguments =
      keyPart printer c key (.value replica) arguments.fastForward := by
  unfold ownerPart
  rw [hkey, hreplica]

/-! ## The parts around it -/

/-- The file at the path can be read, and the config in it is accepted. -/
def HoldsConfig (settings : Settings) (files : Files) (path : Text) (c : BucketConfig) : Prop :=
  ∃ raw bytes, Escaped.encode (FilePath.normalize path) = .ok raw ∧
    files (FilePath.normalize path) = .ok bytes ∧ (load settings bytes).outcome = .ok c

variable {settings : Settings} {files : Files} {line : List Text} {arguments : Arguments}

theorem HoldsConfig.exists_build {path : Text} (h : HoldsConfig settings files path c) :
    ∃ d, (BucketConfig.build none d).outcome = .ok c := by
  obtain ⟨_, _, _, _, hload⟩ := h
  obtain ⟨d, _, hbuild⟩ := Run.outcome_bind_eq_ok_iff.mp hload
  exact ⟨d, hbuild⟩

theorem filePart_of_holdsConfig (printer : Printer)
    (h : HoldsConfig settings files arguments.config c) :
    ∃ log, filePart settings files printer arguments = configPart printer c arguments log := by
  obtain ⟨raw, bytes, hraw, hbytes, hload⟩ := h
  refine ⟨(load settings bytes).log, ?_⟩
  unfold filePart
  dsimp only
  rw [hraw, hbytes]
  dsimp only
  unfold bytesPart
  dsimp only
  rw [hload]

theorem configPart_of_takesAll {before : Text} (arguments : Arguments)
    (hl : Lines (summary c) before) (ht : TakesAll printer (summary c)) (log : List Record) :
    (configPart printer c arguments log).ending = (ownerPart printer c arguments).ending ∧
      (configPart printer c arguments log).output =
        before ++ (ownerPart printer c arguments).output := by
  unfold configPart
  rw [printLines_of_takesAll hl ht]
  exact ⟨rfl, rfl⟩

/-- A line of the summary that the stream refuses stops the inspector. -/
theorem configPart_of_not_takesAll {before : Text} (arguments : Arguments)
    (hl : Lines (summary c) before) (ht : ¬ TakesAll printer (summary c)) (log : List Record) :
    ∃ f, (configPart printer c arguments log).ending = .stopped (.failure f) := by
  obtain ⟨f, hf⟩ := exists_failure_of_not_takesAll hl ht
  refine ⟨f, ?_⟩
  unfold configPart
  dsimp only
  rw [hf]

theorem run_of_level_error {fault : Level.Fault} (files : Files) (printer : Printer)
    (hline : Arguments.read settings.debug line = .ok (.inspect arguments))
    (hlevel : levelOf settings arguments = .error fault) :
    (run settings files printer line).ending = .stopped (.level fault) := by
  unfold run
  rw [hline]
  dsimp only
  unfold inspect
  rw [hlevel]

theorem run_of_level {level : Level} (files : Files) (printer : Printer)
    (hline : Arguments.read settings.debug line = .ok (.inspect arguments))
    (hlevel : levelOf settings arguments = .ok level) :
    (run settings files printer line).ending = (filePart settings files printer arguments).ending ∧
      (run settings files printer line).output =
        (filePart settings files printer arguments).output := by
  unfold run
  rw [hline]
  dsimp only
  unfold inspect
  rw [hlevel]
  exact ⟨rfl, rfl⟩

/-- What a run on an accepted config prints: the summary, and behind it the part for the key. A summary
that the stream refuses stops the inspector. -/
structure RunsOn (printer : Printer) (c : BucketConfig) (arguments : Arguments) (before : Text)
    (report : Report) : Prop where
  lines : Lines (summary c) before
  taken : TakesAll printer (summary c) →
    report.ending = (ownerPart printer c arguments).ending ∧
      report.output = before ++ (ownerPart printer c arguments).output
  refused : ¬ TakesAll printer (summary c) → ∃ f, report.ending = .stopped (.failure f)

theorem run_of_holdsConfig {level : Level} (printer : Printer)
    (hline : Arguments.read settings.debug line = .ok (.inspect arguments))
    (hlevel : levelOf settings arguments = .ok level)
    (hfile : HoldsConfig settings files arguments.config c) :
    ∃ before, RunsOn printer c arguments before (run settings files printer line) := by
  obtain ⟨d, hbuild⟩ := hfile.exists_build
  obtain ⟨hrev, hcount⟩ := BucketConfig.writable_of_build hbuild
  obtain ⟨before, hlines⟩ := exists_lines (writable_of_mem_summary hrev hcount)
  obtain ⟨log, hpart⟩ := filePart_of_holdsConfig printer hfile
  obtain ⟨hending, houtput⟩ := run_of_level files printer hline hlevel
  rw [hpart] at hending houtput
  refine ⟨before, hlines, fun ht => ?_, fun ht => ?_⟩
  · obtain ⟨hending', houtput'⟩ := configPart_of_takesAll arguments hlines ht log
    exact ⟨hending.trans hending', houtput.trans houtput'⟩
  · obtain ⟨f, hf⟩ := configPart_of_not_takesAll arguments hlines ht log
    exact ⟨f, hending.trans hf⟩

/-! ## Reports and located owners -/

/-- The report ends well, and its last line is that for the key and the owner. -/
def Names (report : Report) (c : BucketConfig) (key : Text) (replica : Int) (owner : Text) : Prop :=
  report.ending = .returned 0 ∧
    ∃ before p, Lines (summary c) before ∧
      (Key.text key).partition c.partitionCount = .ok p ∧
      report.output = before ++ (ownerText key p replica owner ++ Text.ofString "\n")

/-- The report says what locating the key in the config gives. -/
structure Tells (report : Report) (c : BucketConfig) (key : Text) (replica : Int)
    (forward : Bool) : Prop where
  owner : ∀ node, (Holder.locate ⟨some c⟩ (.text key) replica forward).outcome = .ok (some node) →
    Names report c key replica node.hostname
  nobody : (Holder.locate ⟨some c⟩ (.text key) replica forward).outcome = .ok none →
    Names report c key replica (Text.ofString "none")
  failure : report.ending = .returned 1 ↔
    ∃ f, (Holder.locate ⟨some c⟩ (.text key) replica forward).outcome = .error f ∧
      f.family ∈ [.configuration, .illegalState, .value, .encoding]

theorem isReported_iff :
    isReported f = true ↔ f.family ∈ [.configuration, .illegalState, .value, .encoding] := by
  unfold isReported
  cases f.family <;> decide

theorem Tells.of_error {report : Report}
    (hf : (Holder.locate ⟨some c⟩ (.text key) replica forward).outcome = .error f)
    (hreported : isReported f = true) (hending : report.ending = .returned 1) :
    Tells report c key replica forward := by
  constructor
  · intro node hnode
    rw [hf] at hnode
    cases hnode
  · intro hnone
    rw [hf] at hnone
    cases hnone
  · exact ⟨fun _ => ⟨f, hf, isReported_iff.mp hreported⟩, fun _ => hending⟩

theorem Tells.of_ok {report : Report} {owner : Option Node}
    (ho : (Holder.locate ⟨some c⟩ (.text key) replica forward).outcome = .ok owner)
    (hnames : Names report c key replica (ownerName owner)) :
    Tells report c key replica forward := by
  constructor
  · intro node hnode
    rw [ho] at hnode
    cases hnode
    exact hnames
  · intro hnone
    rw [ho] at hnone
    cases hnone
    exact hnames
  · constructor
    · intro hending
      rw [hnames.1] at hending
      cases hending
    · rintro ⟨f, hf, -⟩
      rw [ho] at hf
      cases hf

/-- Both outcomes of locating the key are reported with a code. -/
theorem Tells.not_stopped {report : Report} {stop : Stop} (hs : c.Sound)
    (h : Tells report c key replica forward) : report.ending ≠ .stopped stop := by
  intro hstop
  cases hlocated : (Holder.locate ⟨some c⟩ (.text key) replica forward).outcome with
  | error f =>
    have hreported := (reported_locate hs (.text key) replica forward).2 f hlocated
    have hending := h.failure.mpr ⟨f, hlocated, isReported_iff.mp hreported⟩
    rw [hstop] at hending
    cases hending
  | ok owner =>
    have hending : report.ending = .returned 0 := by
      cases owner with
      | some node => exact (h.owner node hlocated).1
      | none => exact (h.nobody hlocated).1
    rw [hstop] at hending
    cases hending

/-! ## What the stream takes -/

/-- The stream takes all that is printed: the lines of the summary and, if the key can be located, the
line for its owner. -/
structure Takes (printer : Printer) (c : BucketConfig) (key : Text) (replica : Int)
    (forward : Bool) : Prop where
  summary : TakesAll printer (summary c)
  owner : ∀ p owner, (Key.text key).partition c.partitionCount = .ok p →
    (Holder.locate ⟨some c⟩ (.text key) replica forward).outcome = .ok owner →
    printer (ownerText key p replica (ownerName owner)) = .ok ()

theorem encodable_of_partition {count : Int} (h : (Key.text key).partition count = .ok p) :
    key.Encodable := by
  by_contra hno
  have hkey : ¬ (Key.text key).Encodable := hno
  obtain ⟨run, hrun⟩ := Key.bytes?_of_not_encodable hkey
  unfold Key.partition at h
  rw [hrun] at h
  split at h
  · cases h
  · cases h

/-- The owner of a key is a partition host. -/
theorem mem_hosts_of_locate {n : Node}
    (h : (Holder.locate ⟨some c⟩ (.text key) replica forward).outcome = .ok (some n)) :
    n ∈ c.hosts := by
  rw [Holder.locate_eq_locateIn] at h
  unfold Holder.locateIn at h
  split at h
  · cases h
  · obtain ⟨_, _, h⟩ := Run.outcome_bind_eq_ok_iff.mp h
    obtain ⟨_, _, h⟩ := Run.outcome_bind_eq_ok_iff.mp h
    unfold Holder.ownerAt at h
    split at h
    · obtain ⟨_, _, h⟩ := Run.outcome_bind_eq_ok_iff.mp h
      cases h
    · obtain ⟨node, hnode, h⟩ := Run.outcome_bind_eq_ok_iff.mp h
      cases h
      exact (BucketConfig.nodeAt_eq_ok_iff.mp hnode).mem

theorem encodable_ownerText {owner : Text} (hkey : key.Encodable) (howner : owner.Encodable) :
    (ownerText key p replica owner).Encodable := by
  simp only [ownerText, Text.encodable_append, Text.encodable_ofString, Numeral.encodable_natural,
    Numeral.encodable_numeral, hkey, howner, and_self]

/-- **Reports in UTF-8.** A stream of UTF-8 takes the report on a built config exactly if neither the
name of the bucket nor the address of a partition host has surrogates. -/
theorem takes_utf8_iff {log : Option Channel} {d : Document}
    (hb : (BucketConfig.build log d).outcome = .ok c) :
    Takes .utf8 c key replica forward ↔
      c.name.Encodable ∧ ∀ host ∈ c.hosts, host.hostname.Encodable := by
  obtain ⟨hrev, hcount⟩ := BucketConfig.writable_of_build hb
  have hsummary : TakesAll .utf8 (summary c) ↔
      c.name.Encodable ∧ ∀ host ∈ c.hosts, host.hostname.Encodable :=
    (takesAll_utf8_iff (writable_of_mem_summary hrev hcount)).trans encodable_summary_iff
  rw [← hsummary]
  refine ⟨Takes.summary, fun ht => ⟨ht, fun p owner hp howner => ?_⟩⟩
  refine utf8_eq_ok_iff.mpr (encodable_ownerText (encodable_of_partition hp) ?_)
  cases owner with
  | none => exact Text.encodable_ofString _
  | some n => exact (hsummary.mp ht).2 n (mem_hosts_of_locate howner)

/-! ## Whole runs -/

/-- Without partitions there is no owner to be located, and the key is reported as not located. -/
theorem keyPart_of_unpartitioned (printer : Printer) (hcount : c.partitionCount = 0) :
    (keyPart printer c key (.value replica) forward).ending = .returned 1 ∧
      (Holder.locate ⟨some c⟩ (.text key) replica forward).outcome = .ok none := by
  have hzero : ¬ Key.IsCount (c.partitionCount : Int) := by
    rintro ⟨k, hk⟩
    have hpos : (0 : Int) < 2 ^ k := Int.pow_pos (by omega)
    omega
  have hp := Key.partition_of_not_isCount (.text key) hzero
  have hreported : isReported (Failure.partitionCount c.partitionCount).sayable = true := by
    rw [isReported_iff, Key.family_partitionCount]
    decide
  refine ⟨keyPart_of_error printer (outcome_locate_of_partition_error hp) hreported, ?_⟩
  rw [Holder.locate_eq_locateIn]
  exact Holder.locateIn_of_unpartitioned hcount

theorem tells_of_keyPart {report : Report} {before : Text} (hs : c.Sound)
    (hw : Numeral.Writable replica) (hcount : c.partitionCount ≠ 0)
    (htakes : Takes printer c key replica forward) (hlines : Lines (summary c) before)
    (hending : report.ending = (keyPart printer c key (.value replica) forward).ending)
    (houtput : report.output =
      before ++ (keyPart printer c key (.value replica) forward).output) :
    Tells report c key replica forward := by
  have hreported := (reported_locate hs (.text key) replica forward).2
  cases hp : (Key.text key).partition c.partitionCount with
  | error f =>
    have hf : (Holder.locate ⟨some c⟩ (.text key) replica forward).outcome = .error f := by
      rw [Holder.locate_eq_locateIn]
      exact Holder.locateIn_of_partition_error hcount hp
    refine .of_error hf (hreported f hf) (hending.trans ?_)
    exact keyPart_of_error printer (outcome_locate_of_partition_error hp) (hreported f hf)
  | ok p =>
    cases hlocated : (Holder.locate ⟨some c⟩ (.text key) replica forward).outcome with
    | error f =>
      refine .of_error hlocated (hreported f hlocated) (hending.trans ?_)
      exact keyPart_of_error printer (outcome_locate_of_error hp hlocated) (hreported f hlocated)
    | ok owner =>
      have hlocate := outcome_locate_of_ok hp hlocated
      obtain ⟨hpart, hpart'⟩ := keyPart_of_ok hw hlocate (htakes.owner p owner hp hlocated)
      refine .of_ok hlocated ⟨hending.trans hpart, before, p, hlines, hp, ?_⟩
      rw [houtput, hpart']

/-- A report that tells the owner was printed. -/
theorem takes_of_tells {report : Report} {before : Text} {arguments : Arguments} (hs : c.Sound)
    (hw : Numeral.Writable replica) (hkey : arguments.key = .value key)
    (hreplica : arguments.replica = .value replica)
    (hruns : RunsOn printer c arguments before report)
    (h : Tells report c key replica arguments.fastForward) :
    Takes printer c key replica arguments.fastForward := by
  have hsummary : TakesAll printer (summary c) := by
    by_contra hno
    obtain ⟨f, hf⟩ := hruns.refused hno
    exact h.not_stopped hs hf
  refine ⟨hsummary, fun p owner hp howner => ?_⟩
  obtain ⟨hending, -⟩ := hruns.taken hsummary
  rw [ownerPart_of_value printer c hkey hreplica] at hending
  cases ht : printer (ownerText key p replica (ownerName owner)) with
  | ok => rfl
  | error f =>
    have hstop := keyPart_of_refused hw (outcome_locate_of_ok hp howner) ht
    exact absurd (hending.trans hstop) (h.not_stopped hs)

theorem run_of_unpartitioned {level : Level} (printer : Printer)
    (hline : Arguments.read settings.debug line = .ok (.inspect arguments))
    (hkey : arguments.key = .value key) (hreplica : arguments.replica = .value replica)
    (hfile : HoldsConfig settings files arguments.config c)
    (hlevel : levelOf settings arguments = .ok level) (htaken : TakesAll printer (summary c))
    (hcount : c.partitionCount = 0) :
    (run settings files printer line).ending = .returned 1 ∧
      (Holder.locate ⟨some c⟩ (.text key) replica arguments.fastForward).outcome = .ok none := by
  obtain ⟨_, hruns⟩ := run_of_holdsConfig printer hline hlevel hfile
  obtain ⟨hending, -⟩ := hruns.taken htaken
  rw [ownerPart_of_value printer c hkey hreplica] at hending
  obtain ⟨hpart, hnone⟩ := keyPart_of_unpartitioned printer hcount
  exact ⟨hending.trans hpart, hnone⟩

/-- **Reports on owners.** The report and the located owner agree exactly if the bucket has
partitions, unless the level of the log keeps the inspector from its work or the stream refuses what
is printed. Without partitions nobody owns the key, and the report is that it could not be
located. -/
theorem run_tells_iff {settings : Settings} {files : Files} (printer : Printer) {line : List Text}
    {arguments : Arguments} {c : BucketConfig} {key : Text} {replica : Int}
    (hline : Arguments.read settings.debug line = .ok (.inspect arguments))
    (hkey : arguments.key = .value key) (hreplica : arguments.replica = .value replica)
    (hfile : HoldsConfig settings files arguments.config c) :
    (Tells (run settings files printer line) c key replica arguments.fastForward ↔
      c.partitionCount ≠ 0 ∧ (∃ level, levelOf settings arguments = .ok level) ∧
        Takes printer c key replica arguments.fastForward) ∧
    ∀ level, levelOf settings arguments = .ok level → TakesAll printer (summary c) →
      c.partitionCount = 0 →
      (run settings files printer line).ending = .returned 1 ∧
      (Holder.locate ⟨some c⟩ (.text key) replica arguments.fastForward).outcome = .ok none := by
  obtain ⟨d, hbuild⟩ := hfile.exists_build
  have hs : c.Sound := (BucketConfig.builtFrom_of_build hbuild).sound
  have hw : Numeral.Writable replica := Arguments.writable_of_read hline replica hreplica
  refine ⟨⟨fun h => ?_, ?_⟩, fun level => run_of_unpartitioned printer hline hkey hreplica hfile⟩
  · cases hlevel : levelOf settings arguments with
    | error fault =>
      exact absurd (run_of_level_error files printer hline hlevel) (h.not_stopped hs)
    | ok level =>
      obtain ⟨before, hruns⟩ := run_of_holdsConfig printer hline hlevel hfile
      have htakes := takes_of_tells hs hw hkey hreplica hruns h
      refine ⟨fun hcount => ?_, ⟨level, rfl⟩, htakes⟩
      obtain ⟨hending, hnone⟩ :=
        run_of_unpartitioned printer hline hkey hreplica hfile hlevel htakes.summary hcount
      cases (h.nobody hnone).1.symm.trans hending
  · rintro ⟨hcount, ⟨level, hlevel⟩, htakes⟩
    obtain ⟨before, hruns⟩ := run_of_holdsConfig printer hline hlevel hfile
    obtain ⟨hending, houtput⟩ := hruns.taken htakes.summary
    rw [ownerPart_of_value printer c hkey hreplica] at hending houtput
    exact tells_of_keyPart hs hw hcount htakes hruns.lines hending houtput

/-- A file with a config that lists the given servers, partitions and nodes. -/
def fileWith (servers map nodes : String) : Bytes :=
  let text := Text.ofString "\x7b\"rev\":1,\"name\":\"b\"," ++
    Text.ofString "\"vBucketServerMap\":\x7b\"serverList\":[" ++ Text.ofString servers ++
    Text.ofString "],\"vBucketMap\":[" ++ Text.ofString map ++
    Text.ofString "],\"numReplicas\":0\x7d,\"nodes\":[" ++ Text.ofString nodes ++
    Text.ofString "]\x7d"
  text.flatMap Utf8.bytesOf

/-- The settings of an environment without variables. -/
def plainSettings : Settings :=
  ⟨11210, 8091, false, Text.ofString "INFO", BucketConfig.persistenceCapability⟩

/-- The command line that asks for the owner of a key. -/
def ownerOfK : List Text := [Text.ofString "c.json", Text.ofString "--key", Text.ofString "k"]

/-- What that command line says. -/
def argumentsOfK : Arguments :=
  ⟨Text.ofString "c.json", .value (Text.ofString "k"), .value 0, false, false⟩

theorem read_ownerOfK :
    Arguments.read plainSettings.debug ownerOfK = .ok (.inspect argumentsOfK) := rfl

theorem levelOf_argumentsOfK : levelOf plainSettings argumentsOfK = .ok 20 := rfl

/-- A bucket with one partition on one node. -/
def singleFile : Files :=
  fun _ => .ok (fileWith "\"a:11210\"" "[0]" "\x7b\"hostname\":\"a:8091\"\x7d")

set_option maxRecDepth 4000 in
theorem holdsConfig_singleFile :
    ∃ c node, HoldsConfig plainSettings singleFile argumentsOfK.config c ∧ c.partitionCount = 1 ∧
      c.name = Text.ofString "b" ∧ c.hosts = [node] ∧ node.hostname = Text.ofString "a" ∧
      (Holder.locate ⟨some c⟩ (.text (Text.ofString "k")) 0 false).outcome = .ok (some node) :=
  ⟨_, _, ⟨_, _, rfl, rfl, rfl⟩, rfl, rfl, rfl, rfl, rfl⟩

/-- The report names the only node. -/
theorem run_tells_singleFile :
    ∃ c, Arguments.read plainSettings.debug ownerOfK = .ok (.inspect argumentsOfK) ∧
      argumentsOfK.key = .value (Text.ofString "k") ∧ argumentsOfK.replica = .value 0 ∧
      HoldsConfig plainSettings singleFile argumentsOfK.config c ∧
      Tells (run plainSettings singleFile .utf8 ownerOfK) c (Text.ofString "k") 0
        argumentsOfK.fastForward ∧
      Names (run plainSettings singleFile .utf8 ownerOfK) c (Text.ofString "k") 0
        (Text.ofString "a") := by
  obtain ⟨c, node, hfile, hcount, hname, hhosts, hhostname, howner⟩ := holdsConfig_singleFile
  have hne : c.partitionCount ≠ 0 := by omega
  obtain ⟨d, hbuild⟩ := hfile.exists_build
  have htakes : Takes .utf8 c (Text.ofString "k") 0 argumentsOfK.fastForward := by
    rw [takes_utf8_iff hbuild, hname, hhosts]
    simp [hhostname, Text.encodable_ofString]
  have htells := (run_tells_iff .utf8 read_ownerOfK rfl rfl hfile).1.mpr
    ⟨hne, ⟨20, levelOf_argumentsOfK⟩, htakes⟩
  have hnames := htells.owner node howner
  rw [hhostname] at hnames
  exact ⟨c, read_ownerOfK, rfl, rfl, hfile, htells, hnames⟩

/-- A bucket without partitions. -/
def emptyFile : Files := fun _ => .ok (fileWith "" "" "")

set_option maxRecDepth 4000 in
theorem holdsConfig_emptyFile :
    ∃ c, HoldsConfig plainSettings emptyFile argumentsOfK.config c ∧ c.partitionCount = 0 :=
  ⟨_, ⟨_, _, rfl, rfl, rfl⟩, rfl⟩

/-- A report does not always agree with the located owner, even if the stream takes everything. -/
theorem not_run_tells :
    ¬ ∀ (settings : Settings) (files : Files) (printer : Printer) (line : List Text)
        (arguments : Arguments) (c : BucketConfig) (key : Text) (replica : Int) (level : Level),
      Arguments.read settings.debug line = .ok (.inspect arguments) →
      arguments.key = .value key → arguments.replica = .value replica →
      levelOf settings arguments = .ok level → (∀ t, printer t = .ok ()) →
      HoldsConfig settings files arguments.config c →
      Tells (run settings files printer line) c key replica arguments.fastForward := by
  intro h
  obtain ⟨c, hfile, hcount⟩ := holdsConfig_emptyFile
  have htells := h _ _ (fun _ => .ok ()) _ _ c _ _ 20 read_ownerOfK rfl rfl levelOf_argumentsOfK
    (fun _ => rfl) hfile
  have htaken : TakesAll (fun _ => .ok ()) (summary c) := fun _ _ _ _ => rfl
  obtain ⟨hending, hnone⟩ :=
    run_of_unpartitioned _ read_ownerOfK rfl rfl hfile levelOf_argumentsOfK htaken hcount
  cases (htells.nobody hnone).1.symm.trans hending

end Inspector

end BucketMap
