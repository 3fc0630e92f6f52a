import BucketMap.Proofs.ServicePorts
import BucketMap.Proofs.UnknownFields

/-!
# The address of a view engine

Of the address of its view engine a node takes the port only, and none where the address is malformed
(`exists_viewPort`). The port stands below the one of the paired entry, and neither the pairing nor the
report on data ports looks at it (`reportDirect_views`).

`Document.read_withView`: a document with another text or null in the place of one such address is read
to the same end, and to the same document apart from the port of that view engine.
-/

namespace BucketMap

open Json

/-! ## What is replaced -/

namespace Fields

/-- The fields of a node with another address of its view engine, or with null for it. -/
def withView (node : Fields) (url : Option Text) : Fields :=
  setField (Text.ofString "couchApiBase") (url.elim .null .str) node

/-- The fields of a document with other members of its node list. -/
def withNodes (fields : Fields) (raws : List Json) : Fields :=
  setField (Text.ofString "nodes") (.arr raws) fields

theorem sameAt_setField {key : Text} {other : String} (h : key ≠ Text.ofString other) (v : Json)
    (fields : Fields) : SameAt other fields (setField key v fields) := by
  unfold SameAt given?
  rw [lookup_setField, if_neg h]

theorem given?_withView (node : Fields) (url : Option Text) :
    (node.withView url).given? "couchApiBase" = url.map .str := by
  unfold withView given?
  rw [lookup_setField, if_pos rfl]
  cases url <;> rfl

theorem array_withNodes (fields : Fields) (raws : List Json) :
    (fields.withNodes raws).array "nodes" = .ok raws := by
  rw [array_eq_ok_iff, withNodes, given?, lookup_setField, if_pos rfl]

section WithNodes

variable {α : Type} {key : String} (h : Text.ofString "nodes" ≠ Text.ofString key)
include h

theorem required_withNodes (fields : Fields) (raws : List Json) (kind? : Json → Option α) :
    (fields.withNodes raws).required key kind? = fields.required key kind? :=
  (sameAt_setField h _ fields).required_eq kind?

theorem optional_withNodes (fields : Fields) (raws : List Json) (kind? : Json → Option α) :
    (fields.withNodes raws).optional key kind? = fields.optional key kind? :=
  (sameAt_setField h _ fields).optional_eq kind?

end WithNodes

end Fields

/-! ## What may differ -/

/-- The port of the view engine is the one that the entry lists. Where it lists none, there is no such
port or one of at most 65535. -/
structure ViewFits (entry : Option Extended) (n : Node) : Prop where
  listed : ∀ port, listed? entry .views = some port → n.port? .views = some port
  unlisted : listed? entry .views = none →
    ∀ port, n.port? .views = some port → 0 ≤ port ∧ port ≤ 65535

/-- The nodes have one address and the same ports except for those of their view engines. -/
structure ViewsApart (entry : Option Extended) (n n' : Node) : Prop where
  hostname : n'.hostname = n.hostname
  ports : ∀ service, service ≠ .views → n'.port? service = n.port? service
  fits : ViewFits entry n
  fits' : ViewFits entry n'

/-- The entry is paired with the node of these fields, which stands at this position. -/
def PairedWith (defaults : PortDefaults) (slots : List (Option Extended)) (position : Nat)
    (node : Fields) (entry : Option Extended) : Prop :=
  ∃ e : NodeFields, e.SaidBy node ∧
    Paired e.host.address (e.direct.getD defaults.data) position slots entry

/-- Two readings of the node of these fields, apart from the port of its view engine. -/
def NodesApart (defaults : PortDefaults) (slots : List (Option Extended)) (position : Nat)
    (node : Fields) (n n' : Node) : Prop :=
  ∃ entry, PairedWith defaults slots position node entry ∧ ViewsApart entry n n'

/-- The lists differ in nothing but the members at one place, which are related. -/
inductive ApartAt {α : Type} (R : α → α → Prop) : Nat → List α → List α → Prop
  | here {a b : α} (h : R a b) (others : List α) : ApartAt R 0 (a :: others) (b :: others)
  | there {place : Nat} {as bs : List α} (a : α) (h : ApartAt R place as bs) :
    ApartAt R (place + 1) (a :: as) (a :: bs)

/-- The documents differ in nothing but their nodes, and these are related. -/
inductive Document.ApartIn (R : List Node → List Node → Prop) : Document → Document → Prop
  | intro {doc : Document} {nodes : List Node} (h : R doc.nodes nodes) :
    ApartIn R doc { doc with nodes := nodes }

section Lists

variable {α : Type} {R : α → α → Prop} {place : Nat} {as bs : List α} {a b : α}

theorem ApartAt.length_eq (h : ApartAt R place as bs) : bs.length = as.length := by
  induction h with
  | here => rfl
  | there a _ ih => rw [List.length_cons, List.length_cons, ih]

theorem apartAt_set (ha : as[place]? = some a) (h : R a b) : ApartAt R place as (as.set place b) := by
  induction as generalizing place with
  | nil => cases ha
  | cons first others ih =>
    cases place with
    | zero =>
      cases ha
      exact .here h others
    | succ place => exact .there first (ih ha)

end Lists

section Results

variable {ε α β γ δ : Type}

theorem ResultsAlike.bind {R : α → β → Prop} {S : γ → δ → Prop} {x : Except ε α} {y : Except ε β}
    {f : α → Except ε γ} {g : β → Except ε δ} (h : ResultsAlike R x y)
    (hfg : ∀ a b, R a b → ResultsAlike S (f a) (g b)) : ResultsAlike S (x >>= f) (y >>= g) := by
  cases h with
  | ok hab => exact hfg _ _ hab
  | error e => exact .error e

theorem ResultsAlike.imp {R S : α → β → Prop} {x : Except ε α} {y : Except ε β}
    (h : ResultsAlike R x y) (hRS : ∀ a b, R a b → S a b) : ResultsAlike S x y := by
  cases h with
  | ok hab => exact .ok (hRS _ _ hab)
  | error e => exact .error e

/-- What follows on one result is alike, if it is so for its value. -/
theorem resultsAlike_bind {S : γ → δ → Prop} {x : Except ε α} {f : α → Except ε γ}
    {g : α → Except ε δ} (hfg : ∀ a, x = .ok a → ResultsAlike S (f a) (g a)) :
    ResultsAlike S (x >>= f) (x >>= g) := by
  cases x with
  | ok a => exact hfg a rfl
  | error e => exact .error e

end Results

/-! ## The port of the address -/

theorem Url.port_range {t : Text} {port : Int} (h : Url.port t = .ok (some port)) :
    0 ≤ port ∧ port ≤ 65535 := by
  unfold Url.port at h
  dsimp only at h
  split at h
  · split at h
    · cases h
    · split at h
      · split at h
        · rename_i hle
          cases h
          unfold maxPort at hle
          omega
        · cases h
      · cases h
  · cases h

theorem ViewPort.range {fields : Fields} {view : Option Int} (h : ViewPort fields view) {port : Int}
    (hport : view = some port) : 0 ≤ port ∧ port ≤ 65535 := by
  cases h with
  | absent => cases hport
  | listed _ hurl =>
    cases hport
    exact Url.port_range hurl

/-- A text is never refused as the address of a view engine. -/
theorem exists_viewPort {fields : Fields} (h : fields.Optional "couchApiBase" IsText) :
    ∃ view, (viewPort fields).outcome = .ok (.ok view) := by
  obtain ⟨read, hread, hverdict⟩ := @viewPort_outcome fields
  obtain ⟨view, rfl⟩ := hverdict.accepts_iff.mpr fun v hv => .inr (h v hv)
  exact ⟨view, hread⟩

theorem optional_withView (node : Fields) (url : Option Text) :
    (node.withView url).Optional "couchApiBase" IsText := by
  intro v hv
  rw [Fields.given?_withView, Option.map_eq_some_iff] at hv
  obtain ⟨t, -, rfl⟩ := hv
  exact ⟨t, rfl⟩

/-! ## The nodes -/

section Nodes

variable {defaults : PortDefaults} {slots : List (Option Extended)} {position : Nat}

theorem NodeFields.Ranked.viewFits {entry : Option Extended} {e : NodeFields} {n : Node}
    (h : e.Ranked defaults entry n) (hview : ∀ port, e.view = some port → 0 ≤ port ∧ port ≤ 65535) :
    ViewFits entry n := by
  constructor
  · intro port hlisted
    rw [h.views, hlisted, Option.some_or]
  · intro hnone port hport
    rw [h.views, hnone, Option.none_or] at hport
    exact hview port hport

/-- The port of the view engine counts for its own service only. -/
theorem NodeFields.Ranked.port?_eq {entry : Option Extended} {e : NodeFields} {view : Option Int}
    {n n' : Node} (h : e.Ranked defaults entry n)
    (h' : NodeFields.Ranked defaults entry { e with view := view } n') {service : Service}
    (hservice : service ≠ .views) : n'.port? service = n.port? service := by
  cases service with
  | data => rw [h.data, h'.data]
  | management => rw [h.management, h'.management]
  | views => exact absurd rfl hservice
  | query => rw [h.query, h'.query]
  | search => rw [h.search, h'.search]
  | analytics => rw [h.analytics, h'.analytics]

/-- Both nodes are ranked with the entry that is paired with their common host and data port. -/
theorem nodesApart_of_saidBy {node : Fields} {e : NodeFields} {view : Option Int}
    (h : ∀ e, some e ∈ slots → e.2.Distinct) (hsaid : e.SaidBy node)
    (hview : ∀ port, view = some port → 0 ≤ port ∧ port ≤ 65535) (hostname : Text) :
    NodesApart defaults slots position node ⟨hostname, e.services defaults slots position⟩
      ⟨hostname, NodeFields.services defaults slots position { e with view := view }⟩ := by
  let entry := paired? e.host.address (e.direct.getD defaults.data) position slots
  have hranked : e.Ranked defaults entry ⟨hostname, e.services defaults slots position⟩ :=
    NodeFields.ranked_of_services h rfl
  have hranked' : NodeFields.Ranked defaults entry { e with view := view }
      ⟨hostname, NodeFields.services defaults slots position { e with view := view }⟩ :=
    NodeFields.ranked_of_services (e := { e with view := view }) h rfl
  have hpaired : PairedWith defaults slots position node entry :=
    ⟨e, hsaid, paired?_eq_iff.mp rfl⟩
  exact ⟨entry, hpaired, rfl, fun _ => hranked.port?_eq hranked',
    hranked.viewFits fun _ => hsaid.view.range, hranked'.viewFits hview⟩

/-- The report on data ports does not look at the port of the view engine. -/
theorem reportDirect_views {entry : Services} (h : entry.Distinct) (address : Text) (hostPort : Int)
    (direct view view' : Option Int) :
    reportDirect address direct (ownServices defaults hostPort direct view') entry =
      reportDirect address direct (ownServices defaults hostPort direct view) entry := by
  unfold reportDirect
  rw [h.port?_update, h.port?_update, port?_ownServices, port?_ownServices]

/-- A node is read alike with another address of its view engine, whatever that is. -/
theorem readNodeFields_withView {node : Fields} (h : ∀ e, some e ∈ slots → e.2.Distinct)
    (hnode : node.Optional "couchApiBase" IsText) (url : Option Text) :
    ResultsAlike (NodesApart defaults slots position node)
      (readNodeFields defaults slots position node).outcome
      (readNodeFields defaults slots position (node.withView url)).outcome := by
  obtain ⟨view, hview⟩ := exists_viewPort hnode
  obtain ⟨view', hview'⟩ := exists_viewPort (optional_withView node url)
  have hhost : (node.withView url).text "hostname" = node.text "hostname" :=
    (Fields.sameAt_setField (by decide) _ _).required_eq asText?
  have hports : directPort (node.withView url) = directPort node := by
    unfold directPort readMembers
    rw [Fields.withView, Fields.sameAt_setField (by decide)]
  unfold readNodeFields
  simp only [hhost, hports, Run.outcome_bind, Run.outcome_ofExcept]
  refine resultsAlike_bind fun t ht => resultsAlike_bind fun d hd => ?_
  cases hdirect : directPort node with
  | error fault => exact .error _
  | ok direct =>
    dsimp only
    rw [Run.outcome_bind_of_ok hview, Run.outcome_bind_of_ok hview']
    dsimp only
    rw [Run.outcome_bind, Run.outcome_bind, reportDirect_views (pairedServices_distinct h)]
    refine resultsAlike_bind fun _ _ => ?_
    simp only [Run.outcome_ofExcept, Node.of]
    cases hnormal : Address.normalize d.address with
    | error fault => exact .error _
    | ok hostname =>
      have hsaid : NodeFields.SaidBy node ⟨d, direct, view⟩ :=
        NodeFields.ReadFrom.saidBy ⟨⟨t, ht, hd⟩, hdirect, hview⟩
      exact .ok (nodesApart_of_saidBy h hsaid (fun _ => (viewPort_spec hview').range) hostname)

/-- Two readings of a list go apart at the place where the lists do, and nowhere else. -/
theorem readNodes_apartAt {R : Json → Json → Prop} {S : Node → Node → Prop} {raws raws' : List Json}
    {place : Nat} (h : ApartAt R place raws raws')
    (hread : ∀ raw raw', R raw raw' →
      ResultsAlike S (readNode defaults slots (position + place) raw).outcome
        (readNode defaults slots (position + place) raw').outcome) :
    ResultsAlike (ApartAt S place) (readNodes defaults slots position raws).outcome
      (readNodes defaults slots position raws').outcome := by
  induction h generalizing position with
  | here hraw others =>
    simp only [readNodes, Run.outcome_bind]
    refine (hread _ _ hraw).bind fun n n' hn => ?_
    exact resultsAlike_bind fun nodes _ => .ok (.here hn nodes)
  | @there place raws raws' raw _ ih =>
    simp only [readNodes, Run.outcome_bind]
    refine resultsAlike_bind fun n _ => ?_
    rw [← Nat.succ_eq_add_one, Nat.add_succ, ← Nat.succ_add] at hread
    exact (ih hread).bind fun nodes nodes' hnodes => .ok (.there n hnodes)

end Nodes

/-! ## The document -/

namespace Document

variable {defaults : PortDefaults} {fields : Fields}

/-- The slots are what the second list says, and each lists a service once. -/
theorem slots_of_readExtendedList {entries : Option (List Json)} {slots : List (Option Extended)}
    (hlisted : fields.array? "nodesExt" = .ok entries)
    (hslots : (readExtendedList (entries.getD [])).outcome = .ok slots) :
    List.Forall₂ SaidByEntry (fields.arrayAt "nodesExt") slots ∧
      ∀ e, some e ∈ slots → e.2.Distinct := by
  have hlist := readExtendedList_eq_ok_iff.mp hslots
  constructor
  · rw [Fields.arrayAt_of_array? hlisted]
    exact hlist.imp fun _ _ => saidByEntry_of_readExtended
  · intro e he
    obtain ⟨entry, -, hentry⟩ := exists_mem_of_forall₂ hlist he
    exact readExtended_distinct hentry

/-- A document depends on its node list through the nodes only, and its failures do so too. -/
theorem readFields_withNodes {R : List Node → List Node → Prop} {raws raws' : List Json}
    (hraws : fields.array "nodes" = .ok raws)
    (hlength : ∀ nodes nodes', R nodes nodes' → nodes'.length = nodes.length)
    (hread : ∀ slots, List.Forall₂ SaidByEntry (fields.arrayAt "nodesExt") slots →
      (∀ e, some e ∈ slots → e.2.Distinct) →
      ResultsAlike R (readNodes defaults slots 0 raws).outcome
        (readNodes defaults slots 0 raws').outcome) :
    ResultsAlike (ApartIn R) (readFields defaults fields).outcome
      (readFields defaults (fields.withNodes raws')).outcome := by
  have hlists : ResultsAlike (fun items items' => items = raws ∧ items' = raws')
      (fields.array "nodes") ((fields.withNodes raws').array "nodes") := by
    rw [hraws, Fields.array_withNodes]
    exact .ok ⟨rfl, rfl⟩
  have hcapabilities : readCapabilities (fields.withNodes raws') = readCapabilities fields := by
    unfold readCapabilities Fields.array?
    rw [Fields.optional_withNodes (by decide)]
  unfold readFields Fields.integer Fields.text Fields.object Fields.array? Fields.text?
  simp only [Run.outcome_bind, Run.outcome_ofExcept, hcapabilities]
  simp (disch := decide) only [Fields.required_withNodes, Fields.optional_withNodes]
  refine resultsAlike_bind fun rev _ => resultsAlike_bind fun name _ =>
    resultsAlike_bind fun serverMap _ => resultsAlike_bind fun layout _ => hlists.bind ?_
  rintro _ _ ⟨rfl, rfl⟩
  refine resultsAlike_bind fun entries hlisted => resultsAlike_bind fun slots hslots => ?_
  obtain ⟨hsaid, hdistinct⟩ := slots_of_readExtendedList hlisted hslots
  refine (hread slots hsaid hdistinct).bind fun nodes nodes' hnodes => ?_
  -- The record on the document tells how many nodes there are, so that it is written in both cases.
  rw [hlength nodes nodes' hnodes]
  refine resultsAlike_bind fun capabilities _ => resultsAlike_bind fun uri _ =>
    resultsAlike_bind fun streamingUri _ => resultsAlike_bind fun _ _ => ?_
  exact .ok (.intro hnodes)

/-- **Addresses of view engines.** Sources whose documents differ in the address of one view engine
only, which is a text, null or missing, are read to the same failure, or to documents that differ in
nothing but the port of this view engine. It is the port of the paired entry, if that lists one, and else
it is missing or at most 65535. -/
theorem read_withView (defaults : PortDefaults) {source source' : Source} {node : Fields}
    {raws : List Json} {position : Nat} (hv : decode source = .ok (.obj fields))
    (hraws : fields.given? "nodes" = some (.arr raws)) (hnode : raws[position]? = some (.obj node))
    (hview : node.Optional "couchApiBase" IsText) (url : Option Text)
    (hv' : decode source' =
      .ok (.obj (fields.withNodes (raws.set position (.obj (node.withView url)))))) :
    ResultsAlike
      (ApartIn fun nodes nodes' =>
        ∃ slots, List.Forall₂ SaidByEntry (fields.arrayAt "nodesExt") slots ∧
          ApartAt (NodesApart defaults slots position node) position nodes nodes')
      (read defaults source).outcome (read defaults source').outcome := by
  have hread : ∀ {source : Source} {v : Json}, decode source = .ok v →
      (read defaults source).outcome = (readValue defaults v).outcome :=
    fun hv => Run.outcome_bind_of_ok hv _
  rw [hread hv, hread hv']
  apply readFields_withNodes (Fields.array_eq_ok_iff.mpr hraws)
  · rintro nodes nodes' ⟨slots, -, hapart⟩
    exact hapart.length_eq
  · intro slots hslots hdistinct
    have hset : ApartAt (fun raw raw' => raw = .obj node ∧ raw' = .obj (node.withView url)) position
        raws (raws.set position (.obj (node.withView url))) := apartAt_set hnode ⟨rfl, rfl⟩
    have hnodes : ResultsAlike (ApartAt (NodesApart defaults slots position node) position)
        (readNodes defaults slots 0 raws).outcome
        (readNodes defaults slots 0 (raws.set position (.obj (node.withView url)))).outcome := by
      apply readNodes_apartAt hset
      rintro _ _ ⟨rfl, rfl⟩
      rw [Nat.zero_add]
      exact readNodeFields_withView hdistinct hview url
    exact hnodes.imp fun nodes nodes' hapart => ⟨slots, hslots, hapart⟩

/-- A node with the address of its view engine. -/
def viewedNode : Fields :=
  [(Text.ofString "hostname", .str (Text.ofString "a")),
    (Text.ofString "couchApiBase", .str (Text.ofString "http://a:9500/b"))]

/-- A document with another node in front of it, for which the second list has the only entry. -/
def viewedFields : Fields :=
  let host : Text × Json := (Text.ofString "hostname", .str (Text.ofString "b"))
  let services : Fields := [(Text.ofString "capi", .int 8092)]
  emptyFields.dropLast ++ [(Text.ofString "nodes", .arr [.obj [host], .obj viewedNode]),
    (Text.ofString "nodesExt", .arr [.obj [host, (Text.ofString "services", .obj services)]])]

/-- The fields of that document with an address whose bracket is not closed. -/
def brokenFields : Fields :=
  viewedFields.withNodes ((viewedFields.arrayAt "nodes").set 1
    (.obj (viewedNode.withView (some (Text.ofString "http://[a:9500/b")))))

/-- With a broken address the node has no port of its view engine. -/
theorem read_withView_broken :
    ∃ doc doc', decode (.value (.obj viewedFields)) = .ok (.obj viewedFields) ∧
      viewedFields.given? "nodes" = some (.arr (viewedFields.arrayAt "nodes")) ∧
      (viewedFields.arrayAt "nodes")[1]? = some (.obj viewedNode) ∧
      viewedNode.Optional "couchApiBase" IsText ∧
      decode (.value (.obj brokenFields)) = .ok (.obj brokenFields) ∧
      (read ⟨11210, 8091⟩ (.value (.obj viewedFields))).outcome = .ok doc ∧
      (read ⟨11210, 8091⟩ (.value (.obj brokenFields))).outcome = .ok doc' ∧
      doc.nodes.map (fun n => n.port? .views) = [some 8092, some 9500] ∧
      doc'.nodes.map (fun n => n.port? .views) = [some 8092, none] ∧
      ∃ slots, ApartAt (NodesApart ⟨11210, 8091⟩ slots 1 viewedNode) 1 doc.nodes doc'.nodes := by
  have hread : ∃ doc, (read ⟨11210, 8091⟩ (.value (.obj viewedFields))).outcome = .ok doc ∧
      doc.nodes.map (fun n => n.port? .views) = [some 8092, some 9500] := ⟨_, rfl, rfl⟩
  have hread' : ∃ doc, (read ⟨11210, 8091⟩ (.value (.obj brokenFields))).outcome = .ok doc ∧
      doc.nodes.map (fun n => n.port? .views) = [some 8092, none] := ⟨_, rfl, rfl⟩
  obtain ⟨doc, hdoc, hports⟩ := hread
  obtain ⟨doc', hdoc', hports'⟩ := hread'
  have hv : decode (.value (.obj viewedFields)) = .ok (.obj viewedFields) := rfl
  have hv' : decode (.value (.obj brokenFields)) = .ok (.obj brokenFields) := rfl
  have hnodes : viewedFields.given? "nodes" = some (.arr (viewedFields.arrayAt "nodes")) := rfl
  have hnode : (viewedFields.arrayAt "nodes")[1]? = some (.obj viewedNode) := rfl
  have hview : viewedNode.Optional "couchApiBase" IsText := by
    intro v hgiven
    cases hgiven
    exact ⟨_, rfl⟩
  have halike := read_withView ⟨11210, 8091⟩ hv hnodes hnode hview _ hv'
  rw [hdoc, hdoc'] at halike
  cases halike with
  | ok hapart =>
    cases hapart with
    | intro h =>
      obtain ⟨slots, -, hat⟩ := h
      exact ⟨_, _, hv, hnodes, hnode, hview, hv', hdoc, hdoc', hports, hports', slots, hat⟩

end Document

end BucketMap
