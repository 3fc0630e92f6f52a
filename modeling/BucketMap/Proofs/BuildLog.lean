import BucketMap.Proofs.DescriptorGrammar
import BucketMap.Proofs.PartitionHosts

/-!
# The log of a build

What a build writes follows from its descriptors and its outcome. Every descriptor up to the first
malformed one adds a warning if the text of its port is no numeral, and another one unless it names
exactly one node (`Descriptor.Reports`). A record on the config ends the log of a build that returns
(`Announced`).

`BucketConfig.build_log`: the log of a build is of this form, its records go to the channel that the
build is given or, without one, to the builder's, and it ends alike on all channels. The descriptors
are reported there as well, although the resolver has a channel of its own.
-/

namespace BucketMap

namespace Run

variable {α β : Type}

/-- What writes nothing leaves the log as it is. -/
theorem log_bind_of_silent {x : Run α} {f : α → Run β} (h : ∀ a, (f a).log = []) :
    (x >>= f).log = x.log := by
  cases hx : x.outcome with
  | error e => exact log_bind_error hx f
  | ok a => rw [log_bind_ok hx, h, List.append_nil]

theorem emit_of_render {channel : Channel} {severity : Severity} {message : Message} {text : Text}
    (h : message.render = .ok text) :
    emit channel severity message = ⟨[⟨channel, severity, text⟩], .ok ()⟩ := by
  rw [emit, h]

end Run

/-! ## Descriptors -/

namespace Descriptor

/-- The value is a descriptor, with or without white space around it. -/
def IsWritten (raw : Json) : Prop :=
  ∃ t host port, raw = .str t ∧ Writes (Text.strip t) host port

/-- The reports on the nodes that a descriptor names. -/
inductive MatchReport (log : Channel) (t : Text) : List Node → List Record → Prop
  | single (n : Node) : MatchReport log t [n] []
  | unmatched : MatchReport log t []
      [⟨log, .warning, Text.ofString "Partition host " ++ t ++
        Text.ofString " does not match any node"⟩]
  | ambiguous {found : List Node} {ports : Text} (hmany : 1 < found.length)
      (hports : (Json.arr (found.map fun n => portValue (n.port? .data))).shown = .ok ports) :
      MatchReport log t found
        [⟨log, .warning, Text.ofString "Partition host " ++ t ++ Text.ofString " is ambiguous, " ++
          Numeral.natural found.length ++ Text.ofString " nodes match: " ++ ports⟩]

/-- The reports on descriptors in their order. They end with the first one that is malformed. -/
inductive Reports (log : Channel) (nodes : List Node) : List Json → List Record → Prop
  | finished : Reports log nodes [] []
  | malformed {raw : Json} (h : ¬ IsWritten raw) (descriptors : List Json) :
      Reports log nodes (raw :: descriptors) []
  | written {t host address : Text} {port : Option Text} {p : Int} {descriptors : List Json}
      {portRecords matchRecords others : List Record} (hwritten : Writes (Text.strip t) host port)
      (haddress : Address.normalize host = .ok address)
      (hport : PortRead log (Text.strip t) port p portRecords)
      (hmatch : MatchReport log t (matching ⟨address, p⟩ nodes) matchRecords)
      (hothers : Reports log nodes descriptors others) :
      Reports log nodes (.str t :: descriptors) (portRecords ++ matchRecords ++ others)

theorem render_unmatched (t : Text) :
    Message.render ["Partition host ", .display (.str t), " does not match any node"] =
      .ok (Text.ofString "Partition host " ++ t ++ Text.ofString " does not match any node") := by
  simp [Message.render, Piece.render, Json.display, bind, Except.bind, pure, Except.pure]

theorem render_ambiguous (t : Text) (count : Nat) {v : Json} {ports : Text} (h : v.shown = .ok ports) :
    Message.render ["Partition host ", .display (.str t), " is ambiguous, ", count,
        " nodes match: ", .shown v] =
      .ok (Text.ofString "Partition host " ++ t ++ Text.ofString " is ambiguous, " ++
        Numeral.natural count ++ Text.ofString " nodes match: " ++ ports) := by
  simp [Message.render, Piece.render, Json.display, h, bind, Except.bind, pure, Except.pure]

theorem exists_matchReport (log : Channel) (t : Text) {found : List Node}
    (h : PortsWritable found) : ∃ records, MatchReport log t found records ∧
      report log (.str t) found = ⟨records, .ok ()⟩ := by
  match found with
  | [] => exact ⟨_, .unmatched, Run.emit_of_render (render_unmatched t)⟩
  | [n] => exact ⟨[], .single n, rfl⟩
  | a :: b :: rest =>
    obtain ⟨ports, hports⟩ := Json.shown_of_writable _ (portValue_writable h)
    exact ⟨_, .ambiguous (by simp) hports, Run.emit_of_render (render_ambiguous t _ hports)⟩

/-- A descriptor that is written well resolves, with its reports in order. -/
theorem resolve_of_writes (log : Channel) {nodes : List Node} {t host : Text} {port : Option Text}
    (hn : PortsWritable nodes) (h : Writes (Text.strip t) host port) :
    ∃ address p portRecords matchRecords, Address.normalize host = .ok address ∧
      PortRead log (Text.strip t) port p portRecords ∧
      MatchReport log t (matching ⟨address, p⟩ nodes) matchRecords ∧
      resolve (some log) (.str t) nodes =
        ⟨portRecords ++ matchRecords, .ok (matching ⟨address, p⟩ nodes)⟩ := by
  obtain ⟨address, p, portRecords, haddress, hport, hread⟩ := read_of_writes (some log) h
  obtain ⟨matchRecords, hmatch, hreport⟩ :=
    exists_matchReport log t (portsWritable_matching (d := ⟨address, p⟩) hn)
  refine ⟨address, p, portRecords, matchRecords, haddress, hport, hmatch, ?_⟩
  unfold resolve
  dsimp only [Option.getD_some]
  rw [hread, Run.bind_eq, Run.andThen]
  dsimp only
  rw [hreport]
  exact congrArg (Run.mk · _) (congrArg (portRecords ++ ·) (List.append_nil matchRecords))

/-- A malformed descriptor does not resolve, and nothing is reported. -/
theorem resolve_of_not_isWritten (log : Channel) (nodes : List Node) {raw : Json}
    (hraw : raw.Writable) (h : ¬ IsWritten raw) :
    ∃ f, resolve (some log) raw nodes = ⟨[], .error f⟩ := by
  obtain ⟨fault, hread⟩ := read_of_not_writes (some log) hraw h
  refine ⟨.configuration fault, ?_⟩
  unfold resolve
  dsimp only [Option.getD_some]
  rw [hread]
  rfl

end Descriptor

/-! ## Partition hosts -/

section Hosts

variable {nodes : List Node} {descriptors : List Json}

theorem keepsTo_resolveAll (nodes : List Node) (descriptors : List Json) :
    KeepsTo fun log => resolveAll log nodes descriptors := by
  induction descriptors with
  | nil => exact .ofExcept _
  | cons raw descriptors ih =>
    exact (Descriptor.keepsTo_resolve raw nodes).bind fun _ => ih.bind fun _ => .ofExcept _

theorem keepsTo_partitionHosts (nodes : List Node) (descriptors : List Json) :
    KeepsTo fun log => partitionHosts (some log) nodes descriptors := by
  refine (keepsTo_resolveAll nodes descriptors).bind fun hosts => ?_
  split
  · exact .ofExcept _
  · exact .ofExcept _

/-- All descriptors up to the first malformed one are reported on. -/
theorem reports_resolveAll (log : Channel) (hn : PortsWritable nodes)
    (hd : ∀ raw ∈ descriptors, raw.Writable) :
    Descriptor.Reports log nodes descriptors (resolveAll log nodes descriptors).log := by
  induction descriptors with
  | nil => exact .finished
  | cons raw descriptors ih =>
    obtain ⟨hraw, hothers⟩ := List.forall_mem_cons.mp hd
    rw [resolveAll]
    by_cases hwritten : Descriptor.IsWritten raw
    · obtain ⟨t, host, port, rfl, hwrites⟩ := hwritten
      obtain ⟨address, p, portRecords, matchRecords, haddress, hport, hmatch, hresolve⟩ :=
        Descriptor.resolve_of_writes log hn hwrites
      rw [hresolve, Run.log_bind_ok rfl, Run.log_bind_of_silent fun _ => rfl]
      exact .written hwrites haddress hport hmatch (ih hothers)
    · obtain ⟨f, hresolve⟩ := Descriptor.resolve_of_not_isWritten log nodes hraw hwritten
      rw [hresolve]
      exact .malformed hwritten descriptors

/-- What comes behind the descriptors is not reported. -/
theorem log_partitionHosts (log : Option Channel) (nodes : List Node) (descriptors : List Json) :
    (partitionHosts log nodes descriptors).log =
      (resolveAll (log.getD .builder) nodes descriptors).log := by
  apply Run.log_bind_of_silent
  intro hosts
  split
  · rfl
  · rfl

end Hosts

/-! ## The build -/

/-- The run wrote these records, and behind them one that tells what it returned, if it did. -/
inductive Announced {α : Type} (log : Channel) (message : α → Message) (records : List Record) :
    Run α → Prop
  | returned {a : α} {text : Text} (h : (message a).render = .ok text) :
    Announced log message records ⟨records ++ [⟨log, .debug, text⟩], .ok a⟩
  | failed (f : Failure) : Announced log message records ⟨records, .error f⟩

section Announced

variable {α β : Type} {log : Channel} {message : β → Message}

/-- What a run writes comes before the records of what follows. -/
theorem announced_bind (x : Run α) {f : α → Run β} (h : ∀ a, Announced log message [] (f a)) :
    Announced log message x.log (x >>= f) := by
  obtain ⟨records, outcome⟩ := x
  cases outcome with
  | error e => exact .failed e
  | ok a =>
    rw [Run.bind_eq, Run.andThen]
    dsimp only
    generalize hrest : f a = rest
    have hannounced : Announced log message [] rest := hrest ▸ h a
    cases hannounced with
    | returned htext => exact .returned htext
    | failed e =>
      rw [List.append_nil]
      exact .failed e

theorem announced_emit (log : Channel) (message : β → Message) (b : β) :
    Announced log message [] (Run.emit log .debug (message b) >>= fun _ => pure b) := by
  cases htext : (message b).render with
  | error e =>
    rw [Run.emit, htext]
    exact .failed _
  | ok text =>
    rw [Run.emit_of_render htext]
    exact .returned htext

end Announced

namespace BucketConfig

/-- The report on a config that was built. -/
def builtMessage (c : BucketConfig) : Message :=
  let before : Message := ["Built "]
  before ++ c.message

/-- A build without a channel reports on the builder's. -/
theorem build_getD (log : Option Channel) (d : Document) :
    build log d = build (some (log.getD .builder)) d := rfl

theorem keepsTo_build (d : Document) : KeepsTo fun log => build (some log) d := by
  refine (keepsTo_partitionHosts d.nodes d.layout.descriptors).bind fun hosts => ?_
  refine .bind (.ofExcept _) fun primaries => .bind (.ofExcept _) fun _ =>
    .bind (.ofExcept _) fun _ => ?_
  exact (KeepsTo.emit _ _).bind fun _ => .ofExcept _

theorem announced_build (log : Channel) (d : Document) :
    Announced log builtMessage (resolveAll log d.nodes d.layout.descriptors).log
      (build (some log) d) := by
  have hhosts := log_partitionHosts (some log) d.nodes d.layout.descriptors
  rw [Option.getD_some] at hhosts
  rw [← hhosts]
  refine announced_bind _ fun hosts => ?_
  refine announced_bind (.ofExcept _) fun primaries => announced_bind (.ofExcept _) fun _ =>
    announced_bind (.ofExcept _) fun _ => ?_
  exact announced_emit log builtMessage _

/-- Whichever channel is given, a document builds alike. -/
theorem outcome_build (log log' : Option Channel) (d : Document) :
    (build log' d).outcome = (build log d).outcome := by
  rw [build_getD log, build_getD log']
  exact (keepsTo_build d).outcome_eq _ _

/-- **The log of a build.** Without a channel given, a build reports on the builder's. It reports
on its descriptors in their order, up to the first malformed one, and behind them on the config if it
returns. All records go to the one channel, and the outcome is the same for any other one. -/
theorem build_log (given : Option Channel) {d : Document} (hn : PortsWritable d.nodes)
    (hd : ∀ raw ∈ d.layout.descriptors, raw.Writable) :
    let log := given.getD .builder
    (∃ records, Descriptor.Reports log d.nodes d.layout.descriptors records ∧
      Announced log builtMessage records (build given d)) ∧
    (∀ r ∈ (build given d).log, r.channel = log) ∧
    ∀ given', (build given' d).outcome = (build given d).outcome := by
  intro log
  refine ⟨⟨_, reports_resolveAll log hn hd, ?_⟩, ?_, fun given' => outcome_build given given' d⟩
  · rw [build_getD]
    exact announced_build log d
  · rw [build_getD]
    exact fun r => (keepsTo_build d).channel_eq

/-- A document with two nodes at one address. The first descriptor names both of them, since the text of
its port is no numeral, and the second one names none. -/
def misreported : Document :=
  { rev := 1
    name := Text.ofString "b"
    uri := none
    streamingUri := none
    layout := ⟨0, [.str (Text.ofString "a:x"), .str (Text.ofString "b")], [], none, false⟩
    nodes := twins
    capabilities := none }

/-- As many nodes are named as there are descriptors, so that the build returns, with and without a
channel of its own. -/
theorem build_log_misreported :
    let mine : Channel := .other (Text.ofString "mine")
    ∃ c records, PortsWritable misreported.nodes ∧
      (∀ raw ∈ misreported.layout.descriptors, raw.Writable) ∧
      (build none misreported).outcome = .ok c ∧ (build (some mine) misreported).outcome = .ok c ∧
      Descriptor.Reports .builder twins misreported.layout.descriptors records ∧
      Announced .builder builtMessage records (build none misreported) ∧
      (build none misreported).log.map Record.severity = [.warning, .warning, .warning, .debug] ∧
      (∀ r ∈ (build none misreported).log, r.channel = .builder) ∧
      ∀ r ∈ (build (some mine) misreported).log, r.channel = mine := by
  intro mine
  have hbuild : ∃ c, (build none misreported).outcome = .ok c := ⟨_, rfl⟩
  obtain ⟨c, hc⟩ := hbuild
  have hwritable : ∀ raw ∈ misreported.layout.descriptors, raw.Writable :=
    writable_of_mem_texts [Text.ofString "a:x", Text.ofString "b"]
  obtain ⟨⟨records, hreports, hannounced⟩, hown, houtcome⟩ :=
    build_log none portsWritable_twins hwritable
  obtain ⟨-, hmine, -⟩ := build_log (some mine) portsWritable_twins hwritable
  exact ⟨c, records, portsWritable_twins, hwritable, hc, (houtcome (some mine)).trans hc, hreports,
    hannounced, rfl, hown, hmine⟩

end BucketConfig

end BucketMap
