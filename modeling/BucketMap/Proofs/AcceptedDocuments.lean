import BucketMap.Proofs.AcceptedNodes

/-!
# Accepted documents

* `Document.read_accepts_iff`: a decoded value is read as a document exactly if it is well-formed; a
  decoded text is read as JSON text first.
* `Document.read_onlyRefuses_iff`: every source of a document is read or refused, unless the first fault
  of the document is an infinite number in the place of an ordinal or a port. Such a number is no
  value of a wrong kind for the readers of ordinals and ports, and the failure to make an integer of
  it passes through them (`Document.not_read_onlyRefuses`).

Both come from the verdict on decoded values, `Document.verdict_readValue`.
-/

namespace BucketMap

open Json

/-- A decoded value is admissible; texts and bytes may be any. -/
def Source.Admissible : Source → Prop
  | .value v => v.Admissible
  | _ => True

namespace Document

variable {fields : Fields}

/-! ## The verdict on decoded values -/

theorem verdict_readCapabilities (hf : (obj fields).Admissible) :
    Verdict (readCapabilities fields) (Fields.Optional fields "bucketCapabilities" IsArray) False := by
  unfold readCapabilities
  apply Verdict.congr
  · apply Fields.verdict_array?.bind
    intro values hvalues
    show Verdict _ True False
    cases values with
    | none => exact verdict_ok none
    | some values =>
      have hwritable : ∀ v ∈ values, v.Writable := by
        intro v hv
        exact (Fields.admissible_of_array? hf hvalues v hv).writable
      exact (Fields.verdict_displayAll hwritable).then_pure some
  · rw [and_true]
  · simp only [and_false, or_false]

theorem wellFormed_iff :
    (Fields.Required fields "rev" IsInteger ∧ Fields.Required fields "name" IsText ∧
      Fields.Required fields "vBucketServerMap" IsObject ∧
      Fields.Required fields "vBucketServerMap" (ObjectWith ServerMapWellFormed) ∧
      Fields.Required fields "nodes" IsArray ∧ Fields.Optional fields "nodesExt" IsArray ∧
      Fields.Optional fields "nodesExt" (ArrayOf ExtendedWellFormed) ∧
      Fields.Required fields "nodes" (ArrayOf (ObjectWith NodeWellFormed)) ∧
      Fields.Optional fields "bucketCapabilities" IsArray ∧ Fields.Optional fields "uri" IsText ∧
      Fields.Optional fields "streamingUri" IsText) ↔ DocumentWellFormed ExtendedWellFormed fields := by
  constructor
  · rintro ⟨hrev, hname, _, hmap, _, _, hextended, hnodes, hcapabilities, huri, hstreaming⟩
    exact ⟨hrev, hname, hmap, hnodes, hextended, hcapabilities, huri, hstreaming⟩
  · intro h
    have hmap := h.serverMap.mono fun _ => ObjectWith.isObject
    have hnodes := h.nodes.mono fun _ => ArrayOf.isArray
    have hextended := h.extended.mono fun _ => ArrayOf.isArray
    exact ⟨h.rev, h.name, hmap, h.serverMap, hnodes, hextended, h.extended, h.nodes, h.capabilities,
      h.uri, h.streamingUri⟩

theorem overflowing_iff :
    (Fields.Required fields "rev" IsInteger ∧ Fields.Required fields "name" IsText ∧
      Fields.Required fields "vBucketServerMap" IsObject ∧
      (Fields.Required fields "vBucketServerMap" (ObjectWith ServerMapOverflowing) ∨
        Fields.Required fields "vBucketServerMap" (ObjectWith ServerMapWellFormed) ∧
          Fields.Required fields "nodes" IsArray ∧ Fields.Optional fields "nodesExt" IsArray ∧
          (Fields.Required fields "nodesExt" (ArrayFaulty ExtendedWellFormed ExtendedOverflowing) ∨
            Fields.Optional fields "nodesExt" (ArrayOf ExtendedWellFormed) ∧
              Fields.Required fields "nodes"
                (ArrayFaulty (ObjectWith NodeWellFormed) (ObjectWith NodeOverflowing))))) ↔
      DocumentOverflowing fields := by
  constructor
  · rintro ⟨hrev, hname, _, hmap | ⟨hmap, hnodes, _, hlists⟩⟩
    · exact ⟨hrev, hname, .inl hmap⟩
    · exact ⟨hrev, hname, .inr ⟨hmap, hnodes, hlists⟩⟩
  · rintro ⟨hrev, hname, hmap | ⟨hmap, hnodes, hlists⟩⟩
    · exact ⟨hrev, hname, hmap.mono fun _ => ObjectWith.isObject, .inl hmap⟩
    · have hextended : Fields.Optional fields "nodesExt" IsArray := by
        rcases hlists with hfaulty | ⟨hextended, _⟩
        · exact hfaulty.optional.mono fun _ => ArrayFaulty.isArray
        · exact hextended.mono fun _ => ArrayOf.isArray
      exact ⟨hrev, hname, hmap.mono fun _ => ObjectWith.isObject,
        .inr ⟨hmap, hnodes, hextended, hlists⟩⟩

theorem verdict_readFields (defaults : PortDefaults) (hf : (obj fields).Admissible) :
    Verdict (readFields defaults fields).outcome (DocumentWellFormed ExtendedWellFormed fields)
      (DocumentOverflowing fields) := by
  unfold readFields
  apply Verdict.congr
  · apply Fields.verdict_integer.run_bind
    intro rev hrev
    apply Fields.verdict_text.run_bind
    intro name _
    apply Fields.verdict_object.run_bind
    intro serverMap hmap
    have hmapForm := Layout.verdict_read (Fields.admissible_of_object hf hmap)
    apply (hmapForm.congr (Fields.objectWith_iff_of_object hmap)
      (Fields.objectWith_iff_of_object hmap)).run_bind
    intro layout _
    apply Fields.verdict_array.run_bind
    intro rawNodes hnodes
    apply Fields.verdict_array?.run_bind
    intro rawExtended hextended
    have hentries := Fields.admissible_of_array? hf hextended
    apply ((verdict_readExtendedList hentries).congr (Fields.arrayOf_iff_of_array? hextended)
      (Fields.arrayFaulty_iff_of_array? hextended)).run_bind
    intro extended hlist
    have hnodesForm := verdict_readNodes defaults 0 (Fields.admissible_of_array hf hnodes)
      (readExtendedList_writable hentries hlist)
    apply (hnodesForm.congr (Fields.arrayOf_iff_of_array hnodes)
      (Fields.arrayFaulty_iff_of_array hnodes)).run_bind
    intro nodes _
    apply (verdict_readCapabilities hf).run_bind
    intro capabilities _
    apply Fields.verdict_text?.run_bind
    intro uri _
    apply Fields.verdict_text?.run_bind
    intro streamingUri _
    have hwritable : Numeral.Writable rev :=
      admissible_int_iff.mp (Fields.admissible_of_given? hf (Fields.integer_eq_ok_iff.mp hrev))
    rw [Run.outcome_bind_of_ok (Run.outcome_emit (by simpa using hwritable))]
    exact verdict_ok _
  · rw [← wellFormed_iff]
    simp only [and_true]
  · rw [← overflowing_iff]
    simp only [and_false, or_false, false_or]

/-- The verdict on a decoded value. -/
theorem verdict_readValue (defaults : PortDefaults) {v : Json} (h : v.Admissible) :
    Verdict (readValue defaults v).outcome (WellFormed ExtendedWellFormed v) (Overflowing v) := by
  unfold WellFormed Overflowing
  cases v with
  | obj fields =>
    rw [objectWith_obj_iff, objectWith_obj_iff]
    exact verdict_readFields defaults h
  | _ =>
    exact Verdict.congr (verdict_refuse (by simp [ConfigurationFault.message]))
      (by simp [ObjectWith]) (by simp [ObjectWith])

/-! ## Decoding -/

theorem mapError_eq_ok_iff {ε ε' α : Type} {x : Except ε α} {f : ε → ε'} {a : α} :
    x.mapError f = .ok a ↔ x = .ok a := by
  cases x <;> simp [Except.mapError]

theorem mapError_eq_error_iff {ε ε' α : Type} {x : Except ε α} {f : ε → ε'} {e : ε'} :
    x.mapError f = .error e ↔ ∃ fault, x = .error fault ∧ f fault = e := by
  cases x <;> simp [Except.mapError]

theorem jsonFailure_family (fault : Json.Fault) :
    (jsonFailure fault).family = .configuration ∨
      ∃ container, jsonFailure fault = .tooDeep container := by
  cases fault with
  | tooDeep container => exact .inr ⟨container, rfl⟩
  | _ =>
    left
    unfold jsonFailure
    dsimp only
    rw [Failure.sayable_of_writable (by simp [Failure.message, ConfigurationFault.message])]
    rfl

theorem decode_value {d : Json} (h : ∀ t, d ≠ .str t) : decode (.value d) = .ok d := by
  cases d with
  | str t => exact absurd rfl (h t)
  | _ => rfl

theorem decode_admissible {source : Source} {v : Json} (hs : source.Admissible)
    (h : decode source = .ok v) : v.Admissible := by
  cases source with
  | text t => exact ofText_admissible (mapError_eq_ok_iff.mp h)
  | bytes b => exact ofBytes_admissible (mapError_eq_ok_iff.mp h)
  | value d =>
    cases d with
    | str t => exact ofText_admissible (mapError_eq_ok_iff.mp h)
    | _ =>
      cases h
      exact hs

theorem decode_eq_error {source : Source} {f : Failure} (h : decode source = .error f) :
    ∃ fault, jsonFailure fault = f := by
  have hmap : ∀ {x : Except Json.Fault Json}, x.mapError jsonFailure = .error f →
      ∃ fault, jsonFailure fault = f := by
    intro x hx
    obtain ⟨fault, _, hfault⟩ := mapError_eq_error_iff.mp hx
    exact ⟨fault, hfault⟩
  cases source with
  | text t => exact hmap h
  | bytes b => exact hmap h
  | value d =>
    cases d with
    | str t => exact hmap h
    | _ => cases h

theorem onlyRefuses_decode {source : Source}
    (hdepth : ∀ container, decode source ≠ .error (.tooDeep container)) :
    OnlyRefuses (decode source) := by
  intro f hf
  obtain ⟨fault, rfl⟩ := decode_eq_error hf
  rcases jsonFailure_family fault with hfamily | ⟨container, hdeep⟩
  · exact hfamily
  · rw [hdeep] at hf
    exact absurd hf (hdepth container)

/-! ## Failures -/

theorem verdict_read (defaults : PortDefaults) {source : Source} (hs : source.Admissible)
    (hdepth : ∀ container, decode source ≠ .error (.tooDeep container)) :
    Verdict (read defaults source).outcome
      (∃ v, decode source = .ok v ∧ WellFormed ExtendedWellFormed v)
      (∃ v, decode source = .ok v ∧ Overflowing v) := by
  apply Verdict.congr
  · apply (onlyRefuses_decode hdepth).verdict.run_bind_dep
    intro v hv
    exact verdict_readValue defaults (decode_admissible hs hv)
  · rfl
  · rw [false_or]
    rfl

/-- **Failures.** A source is read or refused, unless the first fault of its document is an infinite
number in the place of an ordinal or a port: that is a failure of another family. -/
theorem read_onlyRefuses_iff (defaults : PortDefaults) {source : Source} (hs : source.Admissible)
    (hdepth : ∀ container, decode source ≠ .error (.tooDeep container)) :
    (OnlyRefuses (read defaults source).outcome ↔
      ¬ ∃ v, decode source = .ok v ∧ Overflowing v) ∧
    ∀ v, decode source = .ok v → Overflowing v →
      (read defaults source).outcome = .error (.integer .infinite) := by
  have hverdict := verdict_read defaults hs hdepth
  refine ⟨hverdict.onlyRefuses_iff, ?_⟩
  intro v hv hoverflow
  exact hverdict.stops_iff.mpr ⟨v, hv, hoverflow⟩

/-- A document whose only fault is an infinite ordinal. -/
def boundless : Text :=
  Text.ofString "\x7b\"rev\":1,\"name\":\"b\",\"vBucketServerMap\":\x7b\"serverList\":[]," ++
    Text.ofString "\"vBucketMap\":[[Infinity]],\"numReplicas\":0\x7d,\"nodes\":[]\x7d"

/-- The server map of that document. -/
def boundlessMap : Fields :=
  [(Text.ofString "serverList", .arr []),
    (Text.ofString "vBucketMap", .arr [.arr [.float (.infinity false)]]),
    (Text.ofString "numReplicas", .int 0)]

/-- What that document says. -/
def boundlessFields : Fields :=
  [(Text.ofString "rev", .int 1), (Text.ofString "name", .str (Text.ofString "b")),
    (Text.ofString "vBucketServerMap", .obj boundlessMap), (Text.ofString "nodes", .arr [])]

theorem decode_boundless : decode (.text boundless) = .ok (.obj boundlessFields) := by
  rfl

theorem overflowing_boundless : Overflowing (.obj boundlessFields) := by
  have hrow : RowOverflowing (.arr [.float (.infinity false)]) := by
    refine ⟨_, rfl, [], _, [], rfl, by simp, ?_⟩
    exact ⟨false, rfl⟩
  have hmap : ServerMapOverflowing boundlessMap := by
    refine .current ⟨_, rfl, [], rfl⟩ ⟨_, rfl, _, rfl, [], _, [], rfl, by simp, hrow⟩
  exact ⟨_, rfl, ⟨_, rfl, 1, rfl⟩, ⟨_, rfl, _, rfl⟩, .inl ⟨_, rfl, _, rfl, hmap⟩⟩

theorem not_tooDeep_boundless (container : Json.Kind) :
    decode (.text boundless) ≠ .error (.tooDeep container) := by
  rw [decode_boundless]
  simp

/-- An infinite ordinal is not refused. -/
theorem read_onlyRefuses_iff_boundless :
    (Source.text boundless).Admissible ∧
      (∀ container, decode (.text boundless) ≠ .error (.tooDeep container)) ∧
      ¬ OnlyRefuses (read ⟨11210, 8091⟩ (.text boundless)).outcome ∧
      (read ⟨11210, 8091⟩ (.text boundless)).outcome = .error (.integer .infinite) := by
  have hs : (Source.text boundless).Admissible := trivial
  obtain ⟨honly, hfails⟩ := read_onlyRefuses_iff ⟨11210, 8091⟩ hs not_tooDeep_boundless
  refine ⟨hs, not_tooDeep_boundless, ?_, hfails _ decode_boundless overflowing_boundless⟩
  intro hrefuses
  exact honly.mp hrefuses ⟨_, decode_boundless, overflowing_boundless⟩

/-- Not every source is read or refused. -/
theorem not_read_onlyRefuses :
    ¬ ∀ (defaults : PortDefaults) (source : Source), source.Admissible →
      (∀ container, decode source ≠ .error (.tooDeep container)) →
        OnlyRefuses (read defaults source).outcome := by
  intro h
  have hread : (read ⟨11210, 8091⟩ (.text boundless)).outcome = .error (.integer .infinite) := by
    unfold read
    rw [Run.outcome_bind, Run.outcome_ofExcept, decode_boundless]
    rfl
  have hfamily := h ⟨11210, 8091⟩ (.text boundless) trivial not_tooDeep_boundless _ hread
  cases hfamily

/-! ## Acceptance -/

theorem read_outcome_eq_ok_iff {defaults : PortDefaults} {source : Source}
    {doc : BucketMap.Document} :
    (read defaults source).outcome = .ok doc ↔
      ∃ v, decode source = .ok v ∧ (readValue defaults v).outcome = .ok doc :=
  Run.outcome_bind_eq_ok_iff

/-- What a source describes is read exactly if it is well-formed. -/
theorem exists_read_iff (defaults : PortDefaults) {source : Source} (hs : source.Admissible) :
    (∃ doc, (read defaults source).outcome = .ok doc) ↔
      ∃ v, decode source = .ok v ∧ WellFormed ExtendedWellFormed v := by
  simp only [read_outcome_eq_ok_iff]
  constructor
  · rintro ⟨doc, v, hv, hdoc⟩
    have hverdict := verdict_readValue defaults (decode_admissible hs hv)
    exact ⟨v, hv, hverdict.accepts_iff.mp ⟨doc, hdoc⟩⟩
  · rintro ⟨v, hv, hform⟩
    have hverdict := verdict_readValue defaults (decode_admissible hs hv)
    obtain ⟨doc, hdoc⟩ := hverdict.accepts_iff.mpr hform
    exact ⟨doc, v, hv, hdoc⟩

/-- **Acceptance.** A decoded value other than a text is read exactly if it is well-formed, and a
text exactly if it is JSON text for a well-formed value. -/
theorem read_accepts_iff (defaults : PortDefaults) {d : Json} (hd : d.Admissible) :
    ((∀ t, d ≠ .str t) → ((∃ doc, (read defaults (.value d)).outcome = .ok doc) ↔
      WellFormed ExtendedWellFormed d)) ∧
    ∀ t, d = .str t → ((∃ doc, (read defaults (.value d)).outcome = .ok doc) ↔
      ∃ v, Json.ofText .standard t = .ok v ∧ WellFormed ExtendedWellFormed v) := by
  have hread := exists_read_iff defaults (show (Source.value d).Admissible from hd)
  constructor
  · intro hne
    rw [hread, decode_value hne]
    simp
  · rintro t rfl
    rw [hread]
    simp only [decode, mapError_eq_ok_iff]

/-! ## Entries without services -/

/-- An entry with a host lists no services. -/
def BareEntry (entry : Json) : Prop :=
  ∀ fields host, entry = .obj fields → Json.lookup (Text.ofString "hostname") fields = some host →
    Fields.Optional fields "services" fun v => v.isFalsy = true

/-- A document without nodes and maps. -/
def emptyFields : Fields :=
  [(Text.ofString "rev", .int 1), (Text.ofString "name", .str (Text.ofString "b")),
    (Text.ofString "vBucketServerMap",
      .obj [(Text.ofString "serverList", .arr []), (Text.ofString "vBucketMap", .arr []),
        (Text.ofString "numReplicas", .int 0)]),
    (Text.ofString "nodes", .arr [])]

/-- That document with one entry of the second list. -/
def listing (entry : Fields) : Json :=
  .obj (emptyFields ++ [(Text.ofString "nodesExt", .arr [.obj entry])])

/-- An entry with a data port. -/
def servingEntry : Fields :=
  [(Text.ofString "hostname", .str (Text.ofString "a")),
    (Text.ofString "services", .obj [(Text.ofString "kv", .int 1)])]

/-- An entry whose host is empty. -/
def hostlessEntry : Fields := [(Text.ofString "hostname", .str [])]

/-- The text of the document without nodes and maps. -/
def emptyText : Text :=
  Text.ofString "\x7b\"rev\":1,\"name\":\"b\",\"vBucketServerMap\":\x7b\"serverList\":[]," ++
    Text.ofString "\"vBucketMap\":[],\"numReplicas\":0\x7d,\"nodes\":[]\x7d"

theorem decode_emptyText : decode (.value (.str emptyText)) = .ok (.obj emptyFields) := by
  rfl

theorem admissible_listing {entry : Fields} (h : (obj entry).Admissible) :
    (listing entry).Admissible := by
  simpa [listing, emptyFields, Admissible, ItemsAdmissible, FieldsAdmissible] using h

theorem admissible_servingEntry : (obj servingEntry).Admissible := by
  simp [servingEntry, Admissible, FieldsAdmissible]

theorem not_bareEntry_serving : ¬ WellFormed BareEntry (listing servingEntry) := by
  rintro ⟨fields, hfields, hform⟩
  cases hfields
  obtain ⟨entries, hentries, hbare⟩ := hform.extended _ rfl
  cases hentries
  have hfalsy := hbare _ List.mem_cons_self servingEntry _ rfl rfl _ rfl
  cases hfalsy

theorem wellFormed_bareEntry_hostless : WellFormed BareEntry (listing hostlessEntry) := by
  have hmap : ServerMapWellFormed [(Text.ofString "serverList", .arr []),
      (Text.ofString "vBucketMap", .arr []), (Text.ofString "numReplicas", .int 0)] := by
    refine ⟨⟨_, rfl, [], rfl⟩, ⟨_, rfl, [], rfl, by simp⟩, ?_, ⟨_, rfl, 0, rfl⟩⟩
    intro v hv
    cases hv
  have hextended : ArrayOf BareEntry (.arr [.obj hostlessEntry]) := by
    rw [arrayOf_arr_iff, List.forall_mem_singleton]
    intro fields host hfields _ v hv
    cases hfields
    cases hv
  refine ⟨_, rfl, ⟨_, rfl, 1, rfl⟩, ⟨_, rfl, _, rfl⟩, ⟨_, rfl, _, rfl, hmap⟩,
    ⟨_, rfl, [], rfl, by simp⟩, ?_, ?_, ?_, ?_⟩
  · intro v hv
    cases hv
    exact hextended
  all_goals
    intro v hv
    cases hv

/-- A document with a data port in the second list is well-formed. -/
theorem read_accepts_iff_listing :
    (listing servingEntry).Admissible ∧ (∀ t, listing servingEntry ≠ .str t) ∧
      WellFormed ExtendedWellFormed (listing servingEntry) := by
  have hadmissible := admissible_listing admissible_servingEntry
  have hne : ∀ t, listing servingEntry ≠ .str t := by
    intro t h
    cases h
  have hread : ∃ doc, (read ⟨11210, 8091⟩ (.value (listing servingEntry))).outcome = .ok doc :=
    ⟨_, rfl⟩
  obtain ⟨hvalue, -⟩ := read_accepts_iff ⟨11210, 8091⟩ hadmissible
  exact ⟨hadmissible, hne, (hvalue hne).mp hread⟩

/-- Entries may list ports, the host of an entry is read too, and a text is read as JSON text. -/
theorem not_read_accepts_iff_bareEntry :
    ((∃ doc, (read ⟨11210, 8091⟩ (.value (listing servingEntry))).outcome = .ok doc) ∧
      ¬ WellFormed BareEntry (listing servingEntry)) ∧
    ((¬ ∃ doc, (read ⟨11210, 8091⟩ (.value (listing hostlessEntry))).outcome = .ok doc) ∧
      WellFormed BareEntry (listing hostlessEntry)) ∧
    ((∃ doc, (read ⟨11210, 8091⟩ (.value (.str emptyText))).outcome = .ok doc) ∧
      ¬ WellFormed BareEntry (.str emptyText)) := by
  refine ⟨⟨⟨_, rfl⟩, not_bareEntry_serving⟩, ⟨?_, wellFormed_bareEntry_hostless⟩,
    ⟨_, read_outcome_eq_ok_iff.mpr ⟨_, decode_emptyText, rfl⟩⟩, ?_⟩
  · rintro ⟨doc, hdoc⟩
    cases hdoc
  · rintro ⟨fields, hfields, _⟩
    cases hfields

end Document

end BucketMap
