import BucketMap.Proofs.NodeIdentity
import BucketMap.Proofs.WrittenNumeral

/-!
# Descriptors of the nodes that are read

Every node of a document can be named: its address and its data port are written as a descriptor
(`Descriptor.written`), where brackets stand around an address with colons. What is written is read
back without a report (`Descriptor.read_written`), since the address of a node keeps its form, its end
can be told from the port behind it, and the port is a numeral.

`Document.resolve_written`: the descriptor of a node names the nodes of the document with its address
and its data port, and so the node itself.
-/

namespace BucketMap

open Text Address

namespace Descriptor

/-! ## Writing descriptors -/

def writtenHost (address : Text) : Text :=
  if CodePoint.ofChar ':' ∈ address then bracketed address else address

/-- The descriptor of an address and a port. -/
def written (address : Text) (port : Int) : Text :=
  writtenHost address ++ CodePoint.ofChar ':' :: Numeral.numeral port

variable {address : Text} {port : Int}

theorem normalize_writtenHost (h : Identity address) :
    normalize (writtenHost address) = .ok address := by
  unfold writtenHost
  split
  · rw [normalize_bracketed h.ne_nil, h.canonical_eq]
  · exact h.normalize_eq

theorem writes_written (h : Identity address) (port : Int) :
    Writes (written address port) (writtenHost address) (some (Numeral.numeral port)) := by
  have hwritten : written address port =
      writtenHost address ++ portPart (some (Numeral.numeral port)) := rfl
  rw [hwritten, writtenHost]
  split
  · rename_i hcolon
    exact .address h.ne_nil (h.unclosed hcolon)
  · rename_i hcolon
    have hstrip : strip address = address := strip_of_trim h.bare.trim
    have hport : ∀ p, some (Numeral.numeral port) = some p → CodePoint.ofChar ':' ∉ p := by
      rintro p ⟨rfl⟩ hmem
      exact (Numeral.not_blank_of_mem_numeral hmem).2 rfl
    apply Writes.name
    · exact fun hopens => (h.bare.head _ hopens).2 rfl
    · exact hcolon
    · exact hport
    · rw [hstrip]
      exact h.ne_nil
    · rw [hstrip]
      exact fun hcloses => (h.bare.last _ hcloses).2 rfl

theorem trim_written (h : Identity address) (port : Int) : Trim (written address port) := by
  constructor
  · intro c hc
    have hne : writtenHost address ≠ [] := by
      intro hnil
      have hnormalize := normalize_writtenHost h
      rw [hnil] at hnormalize
      cases hnormalize
    rw [written, List.head?_append_of_ne_nil _ hne, writtenHost] at hc
    split at hc
    · cases hc
      decide
    · exact (h.bare.head c hc).1
  · intro c hc
    rw [written, List.getLast?_append_of_ne_nil _ (List.cons_ne_nil _ _)] at hc
    rcases List.mem_cons.mp (List.mem_of_getLast? hc) with rfl | hmem
    · decide
    · exact (Numeral.not_blank_of_mem_numeral hmem).1

/-! ## Reading them back -/

theorem read_written (log : Option Channel) (h : Identity address) (hport : Numeral.Writable port) :
    read log (.str (written address port)) = ⟨[], .ok ⟨address, port⟩⟩ := by
  have hwrites := writes_written h port
  rw [← strip_of_trim (trim_written h port)] at hwrites
  obtain ⟨a, p, records, haddress, hp, hread⟩ := read_of_writes log hwrites
  rw [normalize_writtenHost h] at haddress
  cases haddress
  have hnumeral := Numeral.read_numeral hport
  cases hp with
  | numeral h' =>
    rw [hnumeral] at h'
    cases h'
    exact hread
  | other h' => exact absurd hnumeral (h' port)

def nodesAt (address : Text) (port : Int) (nodes : List Node) : List Node :=
  nodes.filter fun n => n.hostname = address ∧ n.port? .data = some port

theorem matching_eq_nodesAt (address : Text) (hport : port ≠ anyPort) (nodes : List Node) :
    matching ⟨address, port⟩ nodes = nodesAt address port nodes := by
  unfold matching nodesAt names
  congr 1
  funext n
  simp [hport]

theorem portsWritable_nodesAt (hport : Numeral.Writable port) (nodes : List Node) :
    PortsWritable (nodesAt address port nodes) := by
  intro n hn p hp
  have hn := (List.mem_filter.mp hn).2
  simp only [decide_eq_true_eq] at hn
  rw [hn.2] at hp
  cases hp
  exact hport

theorem resolve_written_outcome (log : Option Channel) (h : Identity address)
    (hport : Numeral.Writable port) (hne : port ≠ anyPort) (nodes : List Node) :
    (resolve log (.str (written address port)) nodes).outcome =
      .ok (nodesAt address port nodes) := by
  have hread : (read log (.str (written address port))).outcome = .ok ⟨address, port⟩ := by
    rw [read_written log h hport]
  have hmatching := matching_eq_nodesAt address hne nodes
  rw [← hmatching]
  apply resolve_outcome_of_read (Json.writable_str _) _ hread
  rw [hmatching]
  exact portsWritable_nodesAt hport nodes

end Descriptor

namespace Document

open Descriptor

/-- **Descriptors of nodes.** The descriptor of a node that is read, with a data port other than zero,
is read as the address and the port of the node, without a report. It names the nodes of the document
that have both, in their order, and the node is one of them. -/
theorem resolve_written {defaults : PortDefaults} {source : Source} {doc : Document}
    (hread : (read defaults source).outcome = .ok doc) {n : Node} (hn : n ∈ doc.nodes) {port : Int}
    (hport : n.port? .data = some port) (hne : port ≠ 0) (hwritable : Numeral.Writable port)
    (log : Option Channel) :
    Descriptor.read log (.str (written n.hostname port)) = ⟨[], .ok ⟨n.hostname, port⟩⟩ ∧
      (resolve log (.str (written n.hostname port)) doc.nodes).outcome =
        .ok (nodesAt n.hostname port doc.nodes) ∧
      n ∈ nodesAt n.hostname port doc.nodes := by
  have hidentity : Identity n.hostname := identity_of_read hread n hn
  refine ⟨read_written log hidentity hwritable,
    resolve_written_outcome log hidentity hwritable hne doc.nodes, ?_⟩
  rw [nodesAt, List.mem_filter, decide_eq_true_eq]
  exact ⟨hn, rfl, hport⟩

/-! ### An address with a scope -/

theorem resolve_written_loose :
    ∃ doc n, (read ⟨11210, 8091⟩ (.value BucketConfig.looseNodes)).outcome = .ok doc ∧
      n ∈ doc.nodes ∧ n.port? .data = some 11210 ∧ (11210 : Int) ≠ 0 ∧ Numeral.Writable 11210 ∧
      written n.hostname 11210 = Text.ofString "[fe80::1%[a]:11210" ∧
      Descriptor.read none (.str (written n.hostname 11210)) =
        ⟨[], .ok ⟨Text.ofString "fe80::1%[a", 11210⟩⟩ ∧
      (resolve none (.str (written n.hostname 11210)) doc.nodes).outcome = .ok [n] := by
  have hexists : ∃ doc n, (read ⟨11210, 8091⟩ (.value BucketConfig.looseNodes)).outcome = .ok doc ∧
      n ∈ doc.nodes ∧ n.hostname = Text.ofString "fe80::1%[a" ∧ n.port? .data = some 11210 ∧
      nodesAt n.hostname 11210 doc.nodes = [n] := ⟨_, _, rfl, List.mem_cons_self, rfl, rfl, rfl⟩
  obtain ⟨doc, n, hread, hn, hhostname, hport, hnodes⟩ := hexists
  have hfits : Numeral.Fits 5 11210 := by decide
  have hwritable : Numeral.Writable 11210 := hfits.writable (by decide)
  obtain ⟨hd, hresolve, -⟩ := resolve_written hread hn hport (by decide) hwritable none
  refine ⟨doc, n, hread, hn, hport, by decide, hwritable, ?_, ?_, ?_⟩
  · rw [hhostname]
    rfl
  · rw [hd, hhostname]
  · rw [hresolve, hnodes]

end Document

end BucketMap
