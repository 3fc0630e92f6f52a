import BucketMap.Descriptor
import BucketMap.Proofs.Outcome

/-!
# What descriptors resolve to

Reading a descriptor and looking its nodes up either gives nodes or refuses the descriptor, provided
that the integers which the reports name can be written (`onlyRefuses_resolve`). The nodes are
those that the descriptor names, in the order of the node list (`resolve_outcome_eq_ok`). The text of a
port is read in any case: `PortRead` says as which port, and what is reported.

The channel is nothing but the place of the reports (`keepsTo_resolve`), and what is given no channel
reports to the resolver's (`read_getD`, `resolve_getD`).
-/

namespace BucketMap

/-- The data ports of the nodes can be written. -/
def PortsWritable (nodes : List Node) : Prop :=
  ∀ n ∈ nodes, ∀ port, n.port? .data = some port → Numeral.Writable port

namespace Descriptor

/-! ## Reading -/

/-- The report on the text of a port that is no numeral. -/
def portReport (log : Channel) (descriptor : Text) : Record :=
  ⟨log, .warning, Text.ofString "Could not parse port from the node address: " ++ descriptor ++
    Text.ofString ", fallback to 0"⟩

/-- The port that the text of a port stands for, with the reports on it. -/
inductive PortRead (log : Channel) (descriptor : Text) : Option Text → Int → List Record → Prop
  | none : PortRead log descriptor none 0 []
  | numeral {t : Text} {port : Int} (h : Numeral.read t = .ok port) :
      PortRead log descriptor (some t) port []
  | other {t : Text} (h : ∀ port, Numeral.read t ≠ .ok port) :
      PortRead log descriptor (some t) 0 [portReport log descriptor]

theorem emit_portReport (log : Channel) (descriptor : Text) :
    Run.emit log .warning ["Could not parse port from the node address: ", descriptor,
      ", fallback to 0"] = ⟨[portReport log descriptor], .ok ()⟩ := by
  have hrender : Message.render ["Could not parse port from the node address: ", descriptor,
      ", fallback to 0"] = .ok (portReport log descriptor).text := by
    simp [Message.render, Piece.render, portReport, bind, Except.bind, pure, Except.pure]
  rw [Run.emit, hrender]
  rfl

theorem exists_portRead (log : Channel) (descriptor : Text) (port : Option Text) :
    ∃ p records, PortRead log descriptor port p records ∧
      readPort log descriptor port = ⟨records, .ok p⟩ := by
  cases port with
  | none => exact ⟨0, [], .none, rfl⟩
  | some t =>
    cases hp : Numeral.read t with
    | ok p => exact ⟨p, [], .numeral hp, by rw [readPort, hp]; rfl⟩
    | error fault =>
      refine ⟨0, [portReport log descriptor], .other (by simp [hp]), ?_⟩
      rw [readPort, hp]
      dsimp only
      rw [emit_portReport]
      rfl

theorem onlyRefuses_address (fault : Address.Fault) :
    OnlyRefuses (refuse (.address fault) : Except Failure Descriptor) :=
  onlyRefuses_refuse (writable_address fault)

theorem writable_descriptor {raw : Json} (h : raw.Writable) :
    (ConfigurationFault.descriptor raw).message.Writable := by
  simpa [ConfigurationFault.message] using h

theorem onlyRefuses_raw {raw : Json} (h : raw.Writable) :
    OnlyRefuses (refuse (.descriptor raw) : Except Failure Descriptor) :=
  onlyRefuses_refuse (writable_descriptor h)

theorem onlyRefuses_readStripped (log : Channel) (t : Text) :
    OnlyRefuses (readStripped log t).outcome := by
  unfold readStripped
  split
  · exact onlyRefuses_raw (Json.writable_str t)
  · rename_i host port _
    split
    · exact onlyRefuses_address _
    · obtain ⟨p, records, -, hread⟩ := exists_portRead log t port
      have hp : (readPort log t port).outcome = .ok p := congrArg Run.outcome hread
      rw [Run.outcome_bind_of_ok hp]
      exact onlyRefuses_ok _

theorem onlyRefuses_read (log : Option Channel) {raw : Json} (h : raw.Writable) :
    OnlyRefuses (read log raw).outcome := by
  cases raw with
  | str t =>
    unfold read
    dsimp only
    split
    · exact onlyRefuses_raw h
    · exact onlyRefuses_readStripped _ _
  | _ => exact onlyRefuses_raw h

/-- A descriptor that is read without a channel is reported on the resolver's. -/
theorem read_getD (log : Option Channel) (raw : Json) :
    read log raw = read (some (log.getD .resolver)) raw := rfl

/-! ## Looking up -/

theorem resolve_getD (log : Option Channel) (raw : Json) (nodes : List Node) :
    resolve log raw nodes = resolve (some (log.getD .resolver)) raw nodes := rfl

theorem portsWritable_matching {d : Descriptor} {nodes : List Node} (h : PortsWritable nodes) :
    PortsWritable (d.matching nodes) := by
  intro n hn
  exact h n (List.mem_filter.mp hn).1

theorem portValue_writable {found : List Node} (h : PortsWritable found) :
    (Json.arr (found.map fun n => portValue (n.port? .data))).Writable := by
  apply Json.writable_arr
  intro v hv
  obtain ⟨n, hn, rfl⟩ := List.mem_map.mp hv
  cases hp : n.port? .data with
  | none => rw [portValue, Json.Writable]; trivial
  | some port =>
    rw [portValue, Json.Writable]
    exact h n hn port hp

/-- Reporting on the nodes of a descriptor never fails. -/
theorem report_outcome (log : Channel) {raw : Json} {found : List Node} (hr : raw.Writable)
    (hf : PortsWritable found) : (report log raw found).outcome = .ok () := by
  match found with
  | [] => exact Run.outcome_emit (by simpa using hr)
  | [_] => rfl
  | a :: b :: rest =>
    apply Run.outcome_emit
    simp only [Message.Writable, Piece.Writable, true_and, and_true]
    exact ⟨hr, portValue_writable hf⟩

theorem resolve_outcome_of_read {log : Option Channel} {raw : Json} {nodes : List Node}
    {d : Descriptor} (hr : raw.Writable) (hfound : PortsWritable (d.matching nodes))
    (hd : (read log raw).outcome = .ok d) :
    (resolve log raw nodes).outcome = .ok (d.matching nodes) := by
  rw [read_getD] at hd
  unfold resolve
  dsimp only
  rw [Run.outcome_bind_of_ok hd, Run.outcome_bind_of_ok (report_outcome _ hr hfound)]
  rfl

theorem onlyRefuses_resolve (log : Option Channel) {raw : Json} {nodes : List Node}
    (hr : raw.Writable) (hn : PortsWritable nodes) : OnlyRefuses (resolve log raw nodes).outcome := by
  refine Run.onlyRefuses_bind (onlyRefuses_read _ hr) fun d _ => ?_
  rw [Run.outcome_bind_of_ok (report_outcome _ hr (portsWritable_matching hn))]
  exact onlyRefuses_ok _

/-- The nodes of a descriptor are those that it names. -/
theorem resolve_outcome_eq_ok {log : Option Channel} {raw : Json} {nodes found : List Node}
    (h : (resolve log raw nodes).outcome = .ok found) :
    ∃ d, (read log raw).outcome = .ok d ∧ found = d.matching nodes := by
  unfold resolve at h
  obtain ⟨d, hd, h⟩ := Run.outcome_bind_eq_ok_iff.mp h
  obtain ⟨_, _, h⟩ := Run.outcome_bind_eq_ok_iff.mp h
  cases h
  exact ⟨d, hd, rfl⟩

theorem mem_of_resolve {log : Option Channel} {raw : Json} {nodes found : List Node}
    (h : (resolve log raw nodes).outcome = .ok found) : ∀ n ∈ found, n ∈ nodes := by
  obtain ⟨d, _, rfl⟩ := resolve_outcome_eq_ok h
  intro n hn
  exact (List.mem_filter.mp hn).1

/-! ## Channels -/

theorem keepsTo_readPort (t : Text) (port : Option Text) :
    KeepsTo fun log => readPort log t port := by
  cases port with
  | none => exact .ofExcept _
  | some digits =>
    unfold readPort
    dsimp only
    cases Numeral.read digits with
    | ok port => exact .ofExcept _
    | error fault => exact (KeepsTo.emit _ _).bind fun _ => .ofExcept _

theorem keepsTo_readStripped (t : Text) : KeepsTo fun log => readStripped log t := by
  unfold readStripped
  cases split? t with
  | none => exact .ofExcept _
  | some cut =>
    dsimp only
    cases Address.normalize cut.1 with
    | error fault => exact .ofExcept _
    | ok address => exact (keepsTo_readPort t cut.2).bind fun _ => .ofExcept _

theorem keepsTo_read (raw : Json) : KeepsTo fun log => read (some log) raw := by
  cases raw with
  | str t =>
    unfold read
    dsimp only
    by_cases hempty : (Text.strip t).isEmpty
    · simp only [hempty, if_true]
      exact .ofExcept _
    · simp only [hempty]
      exact keepsTo_readStripped _
  | _ => exact .ofExcept _

theorem keepsTo_report (raw : Json) (found : List Node) :
    KeepsTo fun log => report log raw found := by
  match found with
  | [] => exact .emit _ _
  | [_] => exact .ofExcept _
  | _ :: _ :: _ => exact .emit _ _

theorem keepsTo_resolve (raw : Json) (nodes : List Node) :
    KeepsTo fun log => resolve (some log) raw nodes :=
  (keepsTo_read raw).bind fun _ => (keepsTo_report raw _).bind fun _ => .ofExcept _

/-- Whichever channel is given, a descriptor resolves alike. -/
theorem outcome_resolve (log log' : Option Channel) (raw : Json) (nodes : List Node) :
    (resolve log' raw nodes).outcome = (resolve log raw nodes).outcome := by
  rw [resolve_getD log, resolve_getD log']
  exact (keepsTo_resolve raw nodes).outcome_eq _ _

end Descriptor

end BucketMap
