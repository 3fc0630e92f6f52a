import BucketMap.Proofs.AcceptedDocuments

/-!
# Unknown fields

Documents that agree on the fields that are looked at have one outcome, whatever other fields they
have at any level (`Document.read_eq_of_valuesAlike`). What is compared follows the document:
objects of each kind by the fields that are read from them, lists member by member, and members of
the second list without host not at all (`DocumentAlike` and the relations before it).

Readers of related values end with related values or with the same failure (`ResultsAlike`), so
that what comes after them ends alike.
-/

namespace BucketMap

open Json

/-! ## Values alike -/

namespace Json

/-- The fields of a value, where all that stands for nothing counts as an empty object. -/
def members? (v : Json) : Option Fields := if v.isFalsy then some [] else v.asObject?

/-- Two objects with related fields, or twice a value that is no object. -/
inductive ObjectsAlike (R : Fields → Fields → Prop) : Json → Json → Prop
  | objects {fields fields' : Fields} (h : R fields fields') :
    ObjectsAlike R (.obj fields) (.obj fields')
  | other {v : Json} (h : ¬ v.IsObject) : ObjectsAlike R v v

/-- Two arrays with related members, or twice a value that is no array. -/
inductive ArraysAlike (R : Json → Json → Prop) : Json → Json → Prop
  | arrays {items items' : List Json} (h : List.Forall₂ R items items') :
    ArraysAlike R (.arr items) (.arr items')
  | other {v : Json} (h : ¬ v.IsArray) : ArraysAlike R v v

/-- Two values with related fields, where all that stands for nothing counts as an empty object, or
twice another value. -/
inductive MembersAlike (R : Fields → Fields → Prop) : Json → Json → Prop
  | members {v v' : Json} {fields fields' : Fields} (hv : v.members? = some fields)
    (hv' : v'.members? = some fields') (h : R fields fields') : MembersAlike R v v'
  | other {v : Json} (h : v.members? = none) : MembersAlike R v v

end Json

/-- The fields hold nothing at a key, or related values. -/
def AlikeAt (R : Json → Json → Prop) (key : String) (fields fields' : Fields) : Prop :=
  Option.Rel R (fields.given? key) (fields'.given? key)

/-- What the fields hold at a key has related fields. -/
def MembersAlikeAt (R : Fields → Fields → Prop) (key : String) (fields fields' : Fields) : Prop :=
  MembersAlike R ((fields.given? key).getD .null) ((fields'.given? key).getD .null)

/-! ## Documents alike -/

/-- The fields of known services. -/
def knownServices (members : Fields) : Fields :=
  members.filter fun field => (Service.ofKey? field.1).isSome

/-- The same known services are listed in the same order. -/
def ServicesAlike (members members' : Fields) : Prop :=
  knownServices members = knownServices members'

/-- Entries with the same host and services, or two without host. -/
inductive EntryAlike : Json → Json → Prop
  | listed {fields fields' : Fields} {host : Json}
    (h : Json.lookup (Text.ofString "hostname") fields = some host)
    (h' : Json.lookup (Text.ofString "hostname") fields' = some host)
    (hservices : MembersAlikeAt ServicesAlike "services" fields fields') :
    EntryAlike (.obj fields) (.obj fields')
  | hostless {entry entry' : Json} (h : hostOf? entry = none) (h' : hostOf? entry' = none) :
    EntryAlike entry entry'

/-- What is looked at in a node is the same. -/
structure NodeAlike (fields fields' : Fields) : Prop where
  hostname : SameAt "hostname" fields fields'
  view : SameAt "couchApiBase" fields fields'
  ports : MembersAlikeAt (SameAt "direct") "ports" fields fields'

/-- What is looked at in a server map is the same. -/
structure ServerMapAlike (fields fields' : Fields) : Prop where
  hosts : SameAt "serverList" fields fields'
  current : SameAt "vBucketMap" fields fields'
  forward : SameAt "vBucketMapForward" fields fields'
  replicas : SameAt "numReplicas" fields fields'

/-- What is looked at in a document is the same, apart from entries without host. -/
structure DocumentAlike (fields fields' : Fields) : Prop where
  rev : SameAt "rev" fields fields'
  name : SameAt "name" fields fields'
  serverMap : AlikeAt (ObjectsAlike ServerMapAlike) "vBucketServerMap" fields fields'
  nodes : AlikeAt (ArraysAlike (ObjectsAlike NodeAlike)) "nodes" fields fields'
  extended : AlikeAt (ArraysAlike EntryAlike) "nodesExt" fields fields'
  capabilities : SameAt "bucketCapabilities" fields fields'
  uri : SameAt "uri" fields fields'
  streamingUri : SameAt "streamingUri" fields fields'

/-- Two documents alike, or two values that are no documents. -/
inductive ValuesAlike : Json → Json → Prop
  | objects {fields fields' : Fields} (h : DocumentAlike fields fields') :
    ValuesAlike (.obj fields) (.obj fields')
  | others {v v' : Json} (h : ¬ v.IsObject) (h' : ¬ v'.IsObject) : ValuesAlike v v'

/-! ## Results alike -/

/-- Related values, or the same failure. -/
inductive ResultsAlike {ε α β : Type} (R : α → β → Prop) : Except ε α → Except ε β → Prop
  | ok {a : α} {b : β} (h : R a b) : ResultsAlike R (.ok a) (.ok b)
  | error (e : ε) : ResultsAlike R (.error e) (.error e)

/-- What follows ends in one way, if it does so after related values. -/
theorem ResultsAlike.bind_eq {ε α β γ : Type} {R : α → β → Prop} {x : Except ε α} {y : Except ε β}
    {f : α → Except ε γ} {g : β → Except ε γ} (h : ResultsAlike R x y)
    (hfg : ∀ a b, R a b → x = .ok a → y = .ok b → f a = g b) : x >>= f = y >>= g := by
  cases h with
  | ok hab => exact hfg _ _ hab rfl rfl
  | error e => rfl

section Fields

variable {α : Type} {R : α → α → Prop} {S : Json → Json → Prop} {key : String}
  {fields fields' : Fields} {kind? : Json → Option α}

theorem AlikeAt.required (h : AlikeAt S key fields fields')
    (hkind : ∀ v v', S v v' → Option.Rel R (kind? v) (kind? v') ∧ v.kind = v'.kind) :
    ResultsAlike R (fields.required key kind?) (fields'.required key kind?) := by
  unfold AlikeAt at h
  unfold Fields.required
  -- Nothing but the values at the key matters from here on.
  generalize fields.given? key = o at h ⊢
  generalize fields'.given? key = o' at h ⊢
  cases h with
  | none => exact .error _
  | @some v v' hv =>
    obtain ⟨hrel, hkinds⟩ := hkind _ _ hv
    dsimp only
    rw [hkinds]
    generalize kind? v = read at hrel ⊢
    generalize kind? v' = read' at hrel ⊢
    cases hrel with
    | none => exact .error _
    | some ha => exact .ok ha

theorem AlikeAt.optional (h : AlikeAt S key fields fields')
    (hkind : ∀ v v', S v v' → Option.Rel R (kind? v) (kind? v') ∧ v.kind = v'.kind) :
    ResultsAlike (Option.Rel R) (fields.optional key kind?) (fields'.optional key kind?) := by
  have hrequired := h.required hkind
  unfold AlikeAt at h
  unfold Fields.optional
  generalize fields.given? key = o at h ⊢
  generalize fields'.given? key = o' at h ⊢
  cases h with
  | none => exact .ok .none
  | some hv =>
    dsimp only
    generalize fields.required key kind? = x at hrequired ⊢
    generalize fields'.required key kind? = x' at hrequired ⊢
    cases hrequired with
    | error e => exact .error e
    | ok ha => exact .ok (.some ha)

theorem asObject?_alike {Q : Fields → Fields → Prop} {v v' : Json} (h : ObjectsAlike Q v v') :
    Option.Rel Q v.asObject? v'.asObject? ∧ v.kind = v'.kind := by
  cases h with
  | objects h => exact ⟨.some h, rfl⟩
  | other hno =>
    rw [asObject?_eq_none_iff.mpr hno]
    exact ⟨.none, rfl⟩

theorem asArray?_alike {v v' : Json} (h : ArraysAlike S v v') :
    Option.Rel (List.Forall₂ S) v.asArray? v'.asArray? ∧ v.kind = v'.kind := by
  cases h with
  | arrays h => exact ⟨.some h, rfl⟩
  | other hno =>
    rw [asArray?_eq_none_iff.mpr hno]
    exact ⟨.none, rfl⟩

theorem readMembers_eq (fields : Fields) (key : String) (refusal : Kind → PortFault)
    (read : Fields → Except PortFault α) : readMembers fields key refusal read =
      match ((fields.given? key).getD .null).members? with
      | some members => read members
      | none => .error (refusal ((fields.given? key).getD .null).kind) := by
  unfold readMembers members?
  dsimp only
  split
  · rfl
  · cases (fields.given? key).getD .null <;> rfl

/-- What is read from related fields is the same, where only a value of another kind is refused. -/
theorem MembersAlikeAt.readMembers_eq {Q : Fields → Fields → Prop} {refusal : Kind → PortFault}
    {read : Fields → Except PortFault α} (h : MembersAlikeAt Q key fields fields')
    (hread : ∀ members members', Q members members' → read members' = read members) :
    readMembers fields' key refusal read = readMembers fields key refusal read := by
  rw [BucketMap.readMembers_eq, BucketMap.readMembers_eq]
  unfold MembersAlikeAt at h
  generalize (fields.given? key).getD .null = v at h ⊢
  generalize (fields'.given? key).getD .null = v' at h ⊢
  cases h with
  | members hv hv' hmembers =>
    rw [hv, hv']
    exact hread _ _ hmembers
  | other _ => rfl

end Fields

/-! ## The second list -/

theorem readServices_knownServices (services : Services) (members : Fields) :
    readServices services (knownServices members) = readServices services members := by
  unfold knownServices
  induction members generalizing services with
  | nil => rfl
  | cons field members ih =>
    obtain ⟨key, value⟩ := field
    cases hservice : Service.ofKey? key with
    | none =>
      rw [List.filter_cons_of_neg (by simp [hservice]), ih]
      simp only [readServices, hservice]
    | some service =>
      rw [List.filter_cons_of_pos (by simp [hservice])]
      simp only [readServices, hservice, ih]

theorem servicesOf_alike {fields fields' : Fields}
    (h : MembersAlikeAt ServicesAlike "services" fields fields') :
    servicesOf fields' = servicesOf fields := by
  apply h.readMembers_eq
  intro members members' hmembers
  unfold ServicesAlike at hmembers
  rw [← readServices_knownServices [] members', ← hmembers, readServices_knownServices]

theorem readExtended_alike {entry entry' : Json} (hadm : entry.Admissible)
    (hadm' : entry'.Admissible) (h : EntryAlike entry entry') :
    (readExtended entry').outcome = (readExtended entry).outcome := by
  cases h with
  | listed h h' hservices =>
    unfold readExtended
    rw [hostOf?_eq_some_iff.mpr ⟨rfl, h⟩, hostOf?_eq_some_iff.mpr ⟨rfl, h'⟩]
    dsimp only
    rw [servicesOf_alike hservices]
  | hostless h h' => rw [readExtended_hostless hadm h, readExtended_hostless hadm' h']

theorem readExtendedList_alike {entries entries' : List Json}
    (h : List.Forall₂ EntryAlike entries entries') (hadm : ∀ entry ∈ entries, entry.Admissible)
    (hadm' : ∀ entry ∈ entries', entry.Admissible) :
    (readExtendedList entries').outcome = (readExtendedList entries).outcome := by
  induction h with
  | nil => rfl
  | cons hentry _ ih =>
    obtain ⟨hfirst, hothers⟩ := List.forall_mem_cons.mp hadm
    obtain ⟨hfirst', hothers'⟩ := List.forall_mem_cons.mp hadm'
    rw [readExtendedList, readExtendedList, Run.outcome_bind, Run.outcome_bind,
      readExtended_alike hfirst hfirst' hentry]
    simp only [Run.outcome_bind, ih hothers hothers']

/-! ## The nodes -/

section Nodes

variable {defaults : PortDefaults} {extended : List (Option Extended)}

theorem readNodeFields_alike {fields fields' : Fields} (h : NodeAlike fields fields')
    (position : Nat) : readNodeFields defaults extended position fields' =
      readNodeFields defaults extended position fields := by
  have hhost : fields'.text "hostname" = fields.text "hostname" := h.hostname.required_eq asText?
  have hports : directPort fields' = directPort fields := by
    apply h.ports.readMembers_eq
    intro ports ports' hdirect
    unfold directOf
    rw [hdirect]
  have hview : viewPort fields' = viewPort fields := by
    unfold viewPort
    rw [h.view]
  unfold readNodeFields
  rw [hhost, hports, hview]

theorem readNode_alike {raw raw' : Json} (h : ObjectsAlike NodeAlike raw raw') (position : Nat) :
    readNode defaults extended position raw' = readNode defaults extended position raw := by
  cases h with
  | objects h => exact readNodeFields_alike h position
  | other _ => rfl

theorem readNodes_alike {raws raws' : List Json}
    (h : List.Forall₂ (ObjectsAlike NodeAlike) raws raws') (position : Nat) :
    readNodes defaults extended position raws' = readNodes defaults extended position raws := by
  induction h generalizing position with
  | nil => rfl
  | cons hraw _ ih =>
    rw [readNodes, readNodes, readNode_alike hraw]
    simp only [ih]

end Nodes

/-! ## The document -/

theorem Layout.read_alike {fields fields' : Fields} (h : ServerMapAlike fields fields') :
    Layout.read fields' = Layout.read fields := by
  unfold Layout.read Fields.array Fields.array? Fields.integer
  rw [h.hosts.required_eq, h.current.required_eq, h.forward.optional_eq, h.replicas.required_eq]

namespace Document

variable {defaults : PortDefaults} {fields fields' : Fields}

theorem readCapabilities_alike (h : DocumentAlike fields fields') :
    readCapabilities fields' = readCapabilities fields := by
  unfold readCapabilities Fields.array?
  rw [h.capabilities.optional_eq]

theorem readFields_alike (hadm : (obj fields).Admissible) (hadm' : (obj fields').Admissible)
    (h : DocumentAlike fields fields') :
    (readFields defaults fields').outcome = (readFields defaults fields).outcome := by
  have hrev : fields'.integer "rev" = fields.integer "rev" := h.rev.required_eq asInteger?
  have hname : fields'.text "name" = fields.text "name" := h.name.required_eq asText?
  have huri : fields'.text? "uri" = fields.text? "uri" := h.uri.optional_eq asText?
  have hstreaming : fields'.text? "streamingUri" = fields.text? "streamingUri" :=
    h.streamingUri.optional_eq asText?
  have hmap : ResultsAlike ServerMapAlike (fields.object "vBucketServerMap")
      (fields'.object "vBucketServerMap") := h.serverMap.required fun _ _ => asObject?_alike
  have hnodes : ResultsAlike (List.Forall₂ (ObjectsAlike NodeAlike)) (fields.array "nodes")
      (fields'.array "nodes") := h.nodes.required fun _ _ => asArray?_alike
  have hextended : ResultsAlike (Option.Rel (List.Forall₂ EntryAlike)) (fields.array? "nodesExt")
      (fields'.array? "nodesExt") := h.extended.optional fun _ _ => asArray?_alike
  unfold readFields
  simp only [Run.outcome_bind, Run.outcome_ofExcept]
  rw [hrev, hname, readCapabilities_alike h, huri, hstreaming]
  refine bind_congr fun rev => bind_congr fun name => Eq.symm ?_
  refine hmap.bind_eq fun serverMap serverMap' hmaps _ _ => ?_
  rw [Layout.read_alike hmaps]
  refine bind_congr fun layout => ?_
  refine hnodes.bind_eq fun raws raws' hraws _ _ => ?_
  refine hextended.bind_eq fun entries entries' hentries hread hread' => ?_
  have hlists : List.Forall₂ EntryAlike (entries.getD []) (entries'.getD []) := by
    cases hentries with
    | none => exact .nil
    | some hitems => exact hitems
  rw [readExtendedList_alike hlists (Fields.admissible_of_array? hadm hread)
    (Fields.admissible_of_array? hadm' hread')]
  refine bind_congr fun extended => ?_
  rw [readNodes_alike hraws]

theorem readValue_of_not_isObject {v : Json} (h : ¬ v.IsObject) :
    readValue defaults v = Run.refuse .notAnObject := by
  unfold readValue
  split
  · exact absurd ⟨_, rfl⟩ h
  · rfl

/-- **Unknown fields.** Sources whose documents agree on the fields that are looked at end in one
way, with the same document or with the same failure. Other fields may be there or not at any
level, and entries of the second list that have no host may be anything. -/
theorem read_eq_of_valuesAlike (defaults : PortDefaults) {source source' : Source}
    (hs : source.Admissible) (hs' : source'.Admissible) {v v' : Json} (hv : decode source = .ok v)
    (hv' : decode source' = .ok v') (h : ValuesAlike v v') :
    (read defaults source').outcome = (read defaults source).outcome := by
  have hread : ∀ {source : Source} {v : Json}, decode source = .ok v →
      (read defaults source).outcome = (readValue defaults v).outcome :=
    fun hv => Run.outcome_bind_of_ok hv _
  rw [hread hv, hread hv']
  cases h with
  | objects h => exact readFields_alike (decode_admissible hs hv) (decode_admissible hs' hv') h
  | others h h' => rw [readValue_of_not_isObject h, readValue_of_not_isObject h']

/-- An empty server map with further fields. -/
def annotatedMap (others : Fields) : Fields :=
  others ++ [(Text.ofString "serverList", .arr []), (Text.ofString "vBucketMap", .arr []),
    (Text.ofString "numReplicas", .int 0)]

/-- A document with further fields in all its objects, and with a first member of its second
list. -/
def annotated (others : Fields) (first : Json) : Fields :=
  let host : Text × Json := (Text.ofString "hostname", .str (Text.ofString "a"))
  let node : Json := .obj (others ++ [host, (Text.ofString "ports", .obj others)])
  let entry : Json := .obj (others ++ [host,
    (Text.ofString "services", .obj (others ++ [(Text.ofString "kv", .int 1)]))])
  others ++ [(Text.ofString "rev", .int 1), (Text.ofString "name", .str (Text.ofString "b")),
    (Text.ofString "vBucketServerMap", .obj (annotatedMap others)),
    (Text.ofString "nodes", .arr [node]), (Text.ofString "nodesExt", .arr [first, entry])]

/-- A field that is no known one at any level. -/
def foreignField : Text × Json := (Text.ofString "moxi", .str (Text.ofString "x"))

/-- A further field in front is no other field. -/
theorem sameAt_cons {key : String} {field : Text × Json} (h : field.1 ≠ Text.ofString key)
    (fields : Fields) : SameAt key fields (field :: fields) := by
  obtain ⟨k, value⟩ := field
  unfold SameAt Fields.given?
  rw [Json.lookup, if_neg h]

theorem serverMapAlike_annotated :
    ServerMapAlike (annotatedMap []) (annotatedMap [foreignField]) :=
  ⟨sameAt_cons (by decide) _, sameAt_cons (by decide) _, sameAt_cons (by decide) _,
    sameAt_cons (by decide) _⟩

theorem documentAlike_annotated :
    DocumentAlike (annotated [] .null) (annotated [foreignField] (.obj [foreignField])) where
  rev := rfl
  name := rfl
  serverMap := .some (.objects serverMapAlike_annotated)
  nodes := .some (.arrays (.cons (.objects ⟨rfl, rfl, .members rfl rfl rfl⟩) .nil))
  extended := .some (.arrays (.cons (.hostless rfl rfl)
    (.cons (.listed rfl rfl (.members rfl rfl rfl)) .nil)))
  capabilities := rfl
  uri := rfl
  streamingUri := rfl

theorem admissible_annotated :
    (obj (annotated [] .null)).Admissible ∧
      (obj (annotated [foreignField] (.obj [foreignField]))).Admissible := by
  constructor
  all_goals
    simp [annotated, annotatedMap, foreignField, Admissible, ItemsAdmissible, FieldsAdmissible]

/-- A foreign field makes the ports of the node an object that is not empty. -/
theorem read_eq_of_valuesAlike_annotated :
    let plain : Json := .obj (annotated [] .null)
    let more : Json := .obj (annotated [foreignField] (.obj [foreignField]))
    ∃ doc, plain.Admissible ∧ more.Admissible ∧ decode (.value plain) = .ok plain ∧
      decode (.value more) = .ok more ∧ ValuesAlike plain more ∧
      (read ⟨11210, 8091⟩ (.value plain)).outcome = .ok doc ∧
      (read ⟨11210, 8091⟩ (.value more)).outcome = .ok doc ∧
      doc.nodes.map (fun n => n.port? .data) = [some 1] := by
  intro plain more
  have hread : ∃ doc, (read ⟨11210, 8091⟩ (.value plain)).outcome = .ok doc ∧
      doc.nodes.map (fun n => n.port? .data) = [some 1] := ⟨_, rfl, rfl⟩
  obtain ⟨doc, hdoc, hports⟩ := hread
  obtain ⟨hplain, hmore⟩ := admissible_annotated
  have hdecode : decode (.value plain) = .ok plain := rfl
  have hdecode' : decode (.value more) = .ok more := rfl
  have halike : ValuesAlike plain more := .objects documentAlike_annotated
  have hsource : (Source.value plain).Admissible := hplain
  have hsource' : (Source.value more).Admissible := hmore
  have hsame := read_eq_of_valuesAlike ⟨11210, 8091⟩ hsource hsource' hdecode hdecode' halike
  exact ⟨doc, hplain, hmore, hdecode, hdecode', halike, hdoc, hsame.trans hdoc, hports⟩

end Document

end BucketMap
