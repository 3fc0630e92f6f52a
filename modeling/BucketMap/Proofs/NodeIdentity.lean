import BucketMap.Proofs.DescriptorGrammar
import BucketMap.Proofs.NodePorts
import BucketMap.Proofs.PrimaryNodes
import BucketMap.Proofs.AcceptedDocuments

/-!
# Addresses of the nodes that are read

A node is given the normal form of the address of its descriptor, which is a normal form already.
`Address.Identity` says what the two passes leave: a text that keeps its form from then on, and whose
end can be told when a port is written behind it. Every node that is read has such an address
(`Document.identity_of_read`), whatever brackets, white space and scopes its descriptor has.

So a built config knows the addresses of its nodes by themselves
(`BucketConfig.isPrimary_iff_mem_of_read`).
-/

namespace BucketMap

open Text

/-! ## Marks of normal forms -/

namespace IPv6

theorem length_le_of_groupsOf?_singleton {tail : Bool} {piece : Text} {gs : List Hextet}
    (h : groupsOf? tail [piece] = some gs) : gs.length ≤ 2 := by
  rw [groupsOf?] at h
  split at h
  · obtain ⟨a, -, rfl⟩ := Option.map_eq_some_iff.mp h
    exact Nat.le_refl 2
  · obtain ⟨g, -, rfl⟩ := Option.map_eq_some_iff.mp h
    exact Nat.le_succ 1

/-- Eight groups are not written without a colon. -/
theorem colon_mem_of_groups? {t : Text} {gs : List Hextet} (h : groups? t = some gs)
    (hlength : gs.length = 8) : CodePoint.ofChar ':' ∈ t := by
  by_contra hno
  have hsingle : doubleColon? t = none := by
    simpa [doubleColon?] using doubleColon?_append_of_not_mem hno []
  have hpieces : splitOn ':' t = [t] := (splitOn_eq_iff (by simp)).mpr ⟨rfl, by simpa using hno⟩
  rw [groups?, hsingle] at h
  dsimp only at h
  rw [hpieces] at h
  have hshort := length_le_of_groupsOf?_singleton h
  omega

end IPv6

namespace Address

variable {t : Text} {m : CodePoint}

/-- The normal form brings in no mark but those of the digits and points of a literal. -/
theorem mem_of_mem_canonical (hm : m.Caseless) (honly : m.InLiteral → m = ':')
    (h : m ∈ canonical t) : m ∈ t := by
  cases hread : IPAddress.read? t with
  | none =>
    rw [canonical_of_name hread] at h
    exact ((lowered_lower t).mem_iff_of_caseless hm).mp h
  | some a =>
    rw [canonical_of_read? hread] at h
    rcases IPAddress.read?_cases hread with ⟨b, rfl, -⟩ | ⟨b, rfl, -, hb⟩
    · have hb := IPv4.read?_text b
      obtain rfl := honly (IPv4.inLiteral_of_read? hb m h)
      exact absurd (IPv4.isAsciiDigit_or_eq_point_of_read? hb _ h) (by decide)
    · obtain ⟨address, rfl, hgroups, -⟩ := IPv6.read?_eq_some_iff.mp hb
      have htext : m ∈ IPv6.compressed b.groups ++ IPv6.scopeText b.scope := by
        rwa [← IPv6.text_eq]
      rcases List.mem_append.mp htext with hwritten | hscope
      · have hcompressed := IPv6.groups?_compressed b.length_groups
        obtain rfl := honly (IPv6.inLiteral_of_groups? hcompressed m hwritten)
        exact List.mem_append_left _ (IPv6.colon_mem_of_groups? hgroups b.length_groups)
      · exact List.mem_append_right address hscope

theorem colon_mem_of_mem_canonical (h : CodePoint.ofChar ':' ∈ canonical t) :
    CodePoint.ofChar ':' ∈ t :=
  mem_of_mem_canonical (by decide) (fun _ => rfl) h

theorem closing_mem_of_mem_canonical (h : CodePoint.ofChar ']' ∈ canonical t) :
    CodePoint.ofChar ']' ∈ t :=
  mem_of_mem_canonical (by decide) (fun hin => absurd hin (by decide)) h

/-! ## Identities -/

/-- The text is its own normal form, from which nothing is cut, and a colon in it is told from one
behind it. -/
structure Identity (t : Text) : Prop where
  ne_nil : t ≠ []
  bare : Bare t
  canonical_eq : canonical t = t
  unclosed : CodePoint.ofChar ':' ∈ t → CodePoint.ofChar ']' ∉ t

theorem Identity.normalize_eq (h : Identity t) : normalize t = .ok t := by
  rw [h.bare.normalize_eq h.ne_nil, h.canonical_eq]

theorem Bare.identity_canonical (hbare : Bare t) (hne : t ≠ [])
    (h : CodePoint.ofChar ':' ∈ t → CodePoint.ofChar ']' ∉ t) : Identity (canonical t) where
  ne_nil := canonical_ne_nil hne
  bare := (bare_canonical_iff t).mpr hbare
  canonical_eq := canonical_canonical t
  unclosed := by
    intro hcolon hcloses
    exact h (colon_mem_of_mem_canonical hcolon) (closing_mem_of_mem_canonical hcloses)

/-- Without a closing bracket, only white space can be cut from a text. -/
theorem eq_strip_of_unbracket {bare : Text} (hcloses : CodePoint.ofChar ']' ∉ t)
    (h : unbracket (strip t) = .ok bare) : strip t = bare ∧ Bare bare := by
  rcases unbracket_eq_ok_iff.mp h with hpair | ⟨rfl, hopens, hend⟩
  · have hmem : CodePoint.ofChar ']' ∈ strip t := by
      rw [hpair]
      exact List.mem_of_getLast? (last_bracketed bare)
    exact absurd ((strip_isInfix t).subset hmem) hcloses
  · exact ⟨rfl, bare_of_trim (trim_strip t) hopens hend⟩

/-- The second pass leaves an identity if the first one was given no closing bracket. -/
theorem identity_of_normalize {hostname : Text} (hcloses : CodePoint.ofChar ']' ∉ t)
    (h : normalize t = .ok hostname) : Identity hostname := by
  obtain ⟨bare, hbare, hne, rfl⟩ := normalize_eq_ok_iff.mp h
  obtain ⟨rfl, hends⟩ := eq_strip_of_unbracket hcloses hbare
  apply hends.identity_canonical hne
  intro _ hmem
  exact hcloses ((strip_isInfix t).subset hmem)

end Address

open Address

namespace Descriptor

variable {t host : Text} {port : Option Text}

theorem identity_of_writes {address hostname : Text} (ht : Trim t) (h : Writes t host port)
    (haddress : normalize host = .ok address) (hhostname : normalize address = .ok hostname) :
    Identity hostname := by
  cases h with
  | @address inner _ hne hcloses =>
    rw [normalize_bracketed hne] at haddress
    cases haddress
    have hcloses' : CodePoint.ofChar ']' ∉ canonical inner :=
      fun hmem => hcloses (closing_mem_of_mem_canonical hmem)
    exact identity_of_normalize hcloses' hhostname
  | name hopens hcolon hport hne hcloses =>
    have hhost : host ≠ [] := by
      rintro rfl
      exact hne rfl
    have hopens' : (strip host).head? ≠ some (CodePoint.ofChar '[') := by
      rwa [head?_strip_host ht hhost]
    obtain ⟨-, -, rfl⟩ := (normalize_name_iff hopens').mp haddress
    -- A name has no colon, and its normal form is stable after the first pass.
    have hidentity : Identity (canonical (strip host)) := by
      apply (bare_of_trim (trim_strip host) hopens' hcloses).identity_canonical hne
      intro hmem
      exact absurd ((strip_isInfix host).subset hmem) hcolon
    rw [hidentity.normalize_eq] at hhostname
    cases hhostname
    exact hidentity

theorem exists_writes_of_read {log : Option Channel} {d : Descriptor}
    (h : (read log (.str t)).outcome = .ok d) :
    ∃ host port, Writes (strip t) host port ∧ normalize host = .ok d.address := by
  by_cases hwrites : ∃ host port, Writes (strip t) host port
  · obtain ⟨host, port, hwrites⟩ := hwrites
    obtain ⟨address, p, records, haddress, -, hread⟩ := read_of_writes log hwrites
    rw [hread] at h
    cases h
    exact ⟨host, port, hwrites, haddress⟩
  · have hno : ¬ ∃ t' host port, Json.str t = .str t' ∧ Writes (strip t') host port := by
      rintro ⟨_, host, port, ⟨rfl⟩, h'⟩
      exact hwrites ⟨host, port, h'⟩
    obtain ⟨fault, hread⟩ := read_of_not_writes log (Json.writable_str t) hno
    rw [hread] at h
    cases h

end Descriptor

/-! ## The nodes of a document -/

namespace Document

variable {defaults : PortDefaults} {source : Source} {doc : Document}

theorem readValue_eq_ok {v : Json} (h : (readValue defaults v).outcome = .ok doc) :
    ∃ fields, v = .obj fields ∧ (readFields defaults fields).outcome = .ok doc := by
  unfold readValue at h
  split at h
  · exact ⟨_, rfl, h⟩
  · cases h

/-- What the two node lists of a document are read from. -/
theorem nodes_of_read (h : (read defaults source).outcome = .ok doc) :
    ∃ (fields : Fields) (raws : List Json) (entries : Option (List Json))
      (extended : List (Option Extended)), decode source = .ok (.obj fields) ∧
      fields.array "nodes" = .ok raws ∧ fields.array? "nodesExt" = .ok entries ∧
      (readExtendedList (entries.getD [])).outcome = .ok extended ∧
      List.Forall₂ (fun raw n => (readNode defaults extended raw.2 raw.1).outcome = .ok n)
        raws.zipIdx doc.nodes := by
  obtain ⟨v, hv, hvalue⟩ := read_outcome_eq_ok_iff.mp h
  obtain ⟨fields, rfl, hfields⟩ := readValue_eq_ok hvalue
  obtain ⟨raws, entries, extended, hraws, hentries, hextended, hnodes⟩ :=
    nodes_of_readFields hfields
  exact ⟨fields, raws, entries, extended, hv, hraws, hentries, hextended,
    readNodes_eq_ok_iff.mp hnodes⟩

theorem identity_of_readNode {extended : List (Option Extended)} {position : Nat} {raw : Json}
    {n : Node} (h : (readNode defaults extended position raw).outcome = .ok n) :
    Identity n.hostname := by
  obtain ⟨fields, -, hfields⟩ := readNode_eq_ok h
  obtain ⟨e, hfrom, hhostname, -⟩ := readNodeFields_eq_ok hfields
  obtain ⟨t, -, hd⟩ := hfrom.host
  obtain ⟨host, port, hwrites, haddress⟩ := Descriptor.exists_writes_of_read hd
  exact Descriptor.identity_of_writes (trim_strip t) hwrites haddress hhostname

theorem identity_of_read (h : (read defaults source).outcome = .ok doc) :
    ∀ n ∈ doc.nodes, Identity n.hostname := by
  obtain ⟨fields, raws, entries, extended, -, -, -, -, hnodes⟩ := nodes_of_read h
  intro n hn
  obtain ⟨raw, -, hraw⟩ := exists_mem_of_forall₂ hnodes hn
  exact identity_of_readNode hraw

end Document

/-! ## Built configs -/

namespace BucketConfig

/-- The owners of masters are nodes of the node list. -/
theorem BuiltFrom.exists_node_of_mem_primaries {log : Option Channel} {d : Document} {c : BucketConfig}
    (h : BuiltFrom log d c) {address : Text} (hmem : address ∈ c.primaries) :
    ∃ n ∈ d.nodes, n.hostname = address := by
  obtain ⟨q, -, n, hn, haddress⟩ := (mem_primaryHosts_iff h.primaries).mp hmem
  exact ⟨n, hn.mem, haddress⟩

/-- **Stable identities.** The address of a node that is read is its own normal form. So a config
built from the document says of the address of a node that it owns a master exactly if that is one
of the addresses of the owners, and it says so of all of these. -/
theorem isPrimary_iff_mem_of_read {defaults : PortDefaults} {source : Source} {doc : Document}
    (hread : (Document.read defaults source).outcome = .ok doc) :
    (∀ n ∈ doc.nodes, normalize n.hostname = .ok n.hostname) ∧
      ∀ log c, (build log doc).outcome = .ok c →
        (∀ n ∈ c.nodes, c.isPrimary n.hostname = true ↔ n.hostname ∈ c.primaries) ∧
          ∀ address ∈ c.primaries, c.isPrimary address = true := by
  have hstable : ∀ n ∈ doc.nodes, normalize n.hostname = .ok n.hostname := by
    intro n hn
    exact (Document.identity_of_read hread n hn).normalize_eq
  refine ⟨hstable, fun log c hbuild => ?_⟩
  have hbuilt : BuiltFrom log doc c := builtFrom_of_build hbuild
  obtain ⟨-, -, -, -, hnodes, -⟩ := hbuilt.fields
  constructor
  · intro n hn
    rw [hnodes] at hn
    exact isPrimary_iff_mem (hstable n hn)
  · intro address hmem
    obtain ⟨n, hn, rfl⟩ := hbuilt.exists_node_of_mem_primaries hmem
    exact (isPrimary_iff_mem (hstable n hn)).mpr hmem

/-! ### Hosts that lose more than their brackets -/

/-- A document whose nodes are given by an address with a scope and by a name with white space in its
brackets; the second node owns the only master. -/
def looseNodes : Json :=
  let node (host : String) : Json := .obj [(Text.ofString "hostname", .str (Text.ofString host))]
  .obj [(Text.ofString "rev", .int 1), (Text.ofString "name", .str (Text.ofString "b")),
    (Text.ofString "vBucketServerMap",
      .obj [(Text.ofString "serverList", .arr [.str (Text.ofString "a"), .str (Text.ofString "a")]),
        (Text.ofString "vBucketMap", .arr [.arr [.int 1]]), (Text.ofString "numReplicas", .int 0)]),
    (Text.ofString "nodes", .arr [node " [FE80:0::1%[a]:8091", node "[ A ]"])]

theorem isPrimary_iff_mem_of_read_loose :
    ∃ doc c, (Document.read ⟨11210, 8091⟩ (.value looseNodes)).outcome = .ok doc ∧
      (build none doc).outcome = .ok c ∧
      c.nodes.map Node.hostname = [Text.ofString "fe80::1%[a", Text.ofString "a"] ∧
      (∀ n ∈ doc.nodes, normalize n.hostname = .ok n.hostname) ∧
      (∀ n ∈ c.nodes, c.isPrimary n.hostname = true ↔ n.hostname ∈ c.primaries) ∧
      c.isPrimary (Text.ofString "a") = true := by
  have hexists : ∃ doc c, (Document.read ⟨11210, 8091⟩ (.value looseNodes)).outcome = .ok doc ∧
      (build none doc).outcome = .ok c ∧
      c.nodes.map Node.hostname = [Text.ofString "fe80::1%[a", Text.ofString "a"] ∧
      c.primaries = [Text.ofString "a"] := ⟨_, _, rfl, rfl, rfl, rfl⟩
  obtain ⟨doc, c, hread, hbuild, hnodes, hprimaries⟩ := hexists
  obtain ⟨hstable, hbuilt⟩ := isPrimary_iff_mem_of_read hread
  obtain ⟨hiff, hall⟩ := hbuilt none c hbuild
  have hmem : Text.ofString "a" ∈ c.primaries := by
    rw [hprimaries]
    exact List.mem_cons_self
  exact ⟨doc, c, hread, hbuild, hnodes, hstable, hiff, hall _ hmem⟩

end BucketConfig

end BucketMap
