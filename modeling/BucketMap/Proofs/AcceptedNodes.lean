import BucketMap.Proofs.AcceptedEntries

/-!
# Reading the nodes

Which nodes of the node list are accepted (`verdict_readNodes`). The pairing with the second list
plays no part in that: whatever entry belongs to a node, the reading of the node goes on, since the
ports that a report on it names come from the document and can be written (`reportDirect_outcome`).
-/

namespace BucketMap

open Json

variable {fields : Fields}

/-! ## Ports of nodes -/

theorem verdict_directOf :
    Verdict (directOf fields) (Fields.Optional fields "direct" StandsForInteger)
      (Fields.Required fields "direct" IsInfinite) := by
  unfold Fields.Optional Fields.Required directOf
  cases fields.given? "direct" with
  | none => exact (verdict_ok _).congr (by simp) (by simp)
  | some value =>
    dsimp only
    apply Verdict.congr
    · apply (verdict_toInt value).carry
      · intro port hport
        rw [hport]
        exact ⟨some port, rfl⟩
      · intro hinfinite
        rw [hinfinite]
        rfl
      · intro fault hfault hother
        rw [hfault]
        exact verdict_refusal (by simpa [Faults.infinite] using hother) trivial
    · simp
    · simp

theorem directOf_writable {port : Int} (hf : (Json.obj fields).Admissible)
    (h : directOf fields = .ok (some port)) : Numeral.Writable port := by
  unfold directOf at h
  split at h
  · cases h
  · rename_i value hvalue
    split at h
    · rename_i n hn
      cases h
      exact (Fields.admissible_of_given? hf hvalue).writable_toInt hn
    · cases h

theorem verdict_directPort :
    Verdict (directPort fields)
      (Fields.Optional fields "ports"
        (FalsyOr (ObjectWith fun ports => Fields.Optional ports "direct" StandsForInteger)))
      (Fields.Required fields "ports"
        (ObjectWith fun ports => Fields.Required ports "direct" IsInfinite)) := by
  apply verdict_readMembers (by simp) fun _ => verdict_directOf
  intro v hv
  cases hv

theorem directPort_writable {port : Int} (hf : (Json.obj fields).Admissible)
    (h : directPort fields = .ok (some port)) : Numeral.Writable port :=
  directOf_writable (Fields.admissible_objectAt hf "ports") (read_objectAt h)

/-- The address of the view engine is accepted or refused; reading it never stops the run. -/
theorem viewPort_outcome :
    ∃ view, (viewPort fields).outcome = .ok view ∧
      Verdict view (Fields.Optional fields "couchApiBase" (FalsyOr IsText)) False := by
  rw [optional_falsyOr_iff]
  unfold viewPort
  dsimp only
  generalize (fields.given? "couchApiBase").getD .null = v
  by_cases hfalsy : v.isFalsy = true
  · rw [if_pos hfalsy]
    exact ⟨_, rfl, (verdict_ok _).congr (by simp [FalsyOr, hfalsy]) Iff.rfl⟩
  · rw [if_neg hfalsy]
    cases v with
    | str t =>
      have haccept : FalsyOr IsText (.str t) := .inr ⟨t, rfl⟩
      cases hport : Url.port t with
      | ok port =>
        refine ⟨.ok port, by simp [hport], ?_⟩
        exact (verdict_ok _).congr (by simp [haccept]) Iff.rfl
      | error fault =>
        refine ⟨.ok none, ?_, (verdict_ok _).congr (by simp [haccept]) Iff.rfl⟩
        simp only [hport]
        rw [Run.outcome_bind_of_ok (Run.outcome_emit (by simp))]
        rfl
    | _ =>
      refine ⟨_, rfl, ?_⟩
      exact Verdict.congr (verdict_refusal (by simp [Faults.infinite]) trivial)
        (by simp [FalsyOr, hfalsy, IsText]) Iff.rfl

/-! ## The report on data ports -/

theorem Services.port?_update {service : Service} {port : Int} {services others : Services}
    (h : (services.update others).port? service = some port) :
    services.port? service = some port ∨ (service, port) ∈ others := by
  unfold Services.update at h
  induction others generalizing services with
  | nil => exact .inl h
  | cons entry others ih =>
    rw [List.foldl_cons] at h
    rcases ih h with hset | hmem
    · rw [Services.port?_set] at hset
      split at hset
      · rename_i hservice
        cases hset
        exact .inr (by simp [← hservice])
      · exact .inl hset
    · exact .inr (List.mem_cons_of_mem _ hmem)

theorem port?_ownServices {defaults : PortDefaults} {hostPort : Int} {direct view : Option Int}
    (service : Service) :
    (ownServices defaults hostPort direct view).port? service =
      match service with
      | .data => some (direct.getD defaults.data)
      | .management =>
        some (if hostPort = Descriptor.anyPort then defaults.management else hostPort)
      | .views => view
      | _ => none := by
  unfold ownServices
  cases view with
  | none => cases service <;> rfl
  | some port => cases service <;> rfl

theorem mem_of_paired? {address : Text} {dataPort : Int} {position : Nat}
    {extended : List (Option Extended)} {e : Extended}
    (h : paired? address dataPort position extended = some e) : some e ∈ extended := by
  have hhere : ∀ e ∈ entriesAt address extended, some e ∈ extended := by
    intro e he
    have hmem := (List.mem_filter.mp he).1
    simpa using hmem
  unfold paired? at h
  dsimp only at h
  split at h
  · rename_i hfind
    cases h
    exact hhere e (List.mem_of_find?_eq_some hfind)
  · split at h
    · rename_i hposition
      cases h
      unfold entryAtPosition? at hposition
      split at hposition
      · rename_i e' hget
        split at hposition
        · cases hposition
          exact List.mem_of_getElem? hget
        · cases hposition
      · cases hposition
    · unfold only? at h
      split at h
      · rename_i a honly
        cases h
        exact hhere e (by simp [honly])
      · cases h

theorem pairedServices_writable {address : Text} {dataPort : Int} {position : Nat}
    {extended : List (Option Extended)} (h : EntriesWritable extended) :
    (pairedServices address dataPort position extended).Writable := by
  unfold pairedServices
  split
  · rename_i e hpaired
    exact h e (mem_of_paired? hpaired)
  · intro e he
    cases he

/-- Both ports of the report come from the document, so that it can always be written. -/
theorem reportDirect_outcome {defaults : PortDefaults} {address : Text} {hostPort : Int}
    {direct view : Option Int} {entry : Services}
    (hdirect : ∀ port, direct = some port → Numeral.Writable port) (hentry : entry.Writable) :
    (reportDirect address direct (ownServices defaults hostPort direct view) entry).outcome =
      .ok () := by
  unfold reportDirect
  split
  · rename_i port listed hlisted
    have hport : Numeral.Writable port := hdirect port rfl
    have hwritable : Numeral.Writable listed := by
      rcases Services.port?_update hlisted with hown | hmem
      · rw [port?_ownServices] at hown
        cases hown
        exact hport
      · exact hentry _ hmem
    split
    · rfl
    · exact Run.outcome_emit (by simp [hport, hwritable])
  · rfl

/-! ## Nodes -/

theorem verdict_node (host : Text) (services : Services) :
    Verdict (Node.of host services) (∃ address, Address.normalize host = .ok address) False := by
  unfold Node.of
  cases hn : Address.normalize host with
  | ok address => exact (verdict_ok _).congr (by simp) Iff.rfl
  | error fault => exact Verdict.congr (verdict_refuse (writable_address fault)) (by simp) Iff.rfl

theorem nodeWellFormed_iff :
    (∃ t, fields.text "hostname" = .ok t ∧
      ∃ d, (Descriptor.read none (.str t)).outcome = .ok d ∧
        Fields.Optional fields "ports"
            (FalsyOr (ObjectWith fun ports => Fields.Optional ports "direct" StandsForInteger)) ∧
          Fields.Optional fields "couchApiBase" (FalsyOr IsText) ∧
            ∃ address, Address.normalize d.address = .ok address) ↔ NodeWellFormed fields := by
  simp only [Fields.text_eq_ok_iff]
  constructor
  · rintro ⟨t, ht, d, hd, hports, hview, address, haddress⟩
    exact ⟨⟨_, ht, t, d, address, rfl, hd, haddress⟩, hports, hview⟩
  · rintro ⟨⟨_, ht, t, d, address, rfl, hd, haddress⟩, hports, hview⟩
    exact ⟨t, ht, d, hd, hports, hview, address, haddress⟩

theorem nodeOverflowing_iff :
    (∃ t, fields.text "hostname" = .ok t ∧
      ∃ d, (Descriptor.read none (.str t)).outcome = .ok d ∧
        Fields.Required fields "ports"
          (ObjectWith fun ports => Fields.Required ports "direct" IsInfinite)) ↔
      NodeOverflowing fields := by
  simp only [Fields.text_eq_ok_iff]
  constructor
  · rintro ⟨t, ht, d, hd, hports⟩
    exact ⟨⟨_, ht, t, d, rfl, hd⟩, hports⟩
  · rintro ⟨⟨_, ht, t, d, rfl, hd⟩, hports⟩
    exact ⟨t, ht, d, hd, hports⟩

theorem verdict_readNodeFields (defaults : PortDefaults) (position : Nat)
    {extended : List (Option Extended)} (hf : (Json.obj fields).Admissible)
    (hx : EntriesWritable extended) :
    Verdict (readNodeFields defaults extended position fields).outcome (NodeWellFormed fields)
      (NodeOverflowing fields) := by
  obtain ⟨view, hview, hverdict⟩ := @viewPort_outcome fields
  rw [← nodeWellFormed_iff, ← nodeOverflowing_iff]
  unfold readNodeFields
  apply Verdict.congr
  · apply Verdict.run_bind_dep
    · exact Fields.verdict_text
    intro t _
    apply Verdict.run_bind_dep
    · exact (Descriptor.onlyRefuses_read none (Json.writable_str t)).verdict
    intro d _
    apply verdict_directPort.of_port
    · intro direct hdirect
      rw [hdirect]
      dsimp only
      rw [Run.outcome_bind_of_ok hview]
      -- The report on the data port names a port of the document, so it cannot fail.
      have hwritable : ∀ port, direct = some port → Numeral.Writable port := by
        rintro port rfl
        exact directPort_writable hf hdirect
      apply hverdict.of_port
      · intro port hport
        rw [hport]
        dsimp only
        rw [Run.outcome_bind_of_ok (reportDirect_outcome hwritable (pairedServices_writable hx))]
        exact verdict_node _ _
      · intro fault hfault
        rw [hfault]
        rfl
      · exact writable_nodePort _
    · intro fault hfault
      rw [hfault]
      rfl
    · exact writable_nodePort _
  · rfl
  · simp only [and_false, or_false, false_or]
    rfl

theorem verdict_readNode (defaults : PortDefaults) (position : Nat)
    {extended : List (Option Extended)} {raw : Json} (h : raw.Admissible)
    (hx : EntriesWritable extended) :
    Verdict (readNode defaults extended position raw).outcome (ObjectWith NodeWellFormed raw)
      (ObjectWith NodeOverflowing raw) := by
  cases raw with
  | obj fields =>
    rw [objectWith_obj_iff, objectWith_obj_iff]
    exact verdict_readNodeFields defaults position h hx
  | _ =>
    refine Verdict.congr (verdict_refuse ?_) (by simp [ObjectWith]) (by simp [ObjectWith])
    simpa [ConfigurationFault.message] using h.writable

theorem verdict_readNodes (defaults : PortDefaults) (position : Nat)
    {extended : List (Option Extended)} {raws : List Json} (h : ∀ raw ∈ raws, raw.Admissible)
    (hx : EntriesWritable extended) :
    Verdict (readNodes defaults extended position raws).outcome
      (∀ raw ∈ raws, ObjectWith NodeWellFormed raw)
      (FirstFault (ObjectWith NodeWellFormed) (ObjectWith NodeOverflowing) raws) := by
  induction raws generalizing position with
  | nil => exact verdict_nil _
  | cons raw raws ih =>
    obtain ⟨hraw, hraws⟩ := List.forall_mem_cons.mp h
    rw [readNodes]
    exact (verdict_readNode defaults position hraw hx).run_cons (ih (position + 1) hraws)

end BucketMap
