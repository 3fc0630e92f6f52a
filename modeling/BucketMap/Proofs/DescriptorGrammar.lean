import BucketMap.Proofs.Descriptor
import BucketMap.Proofs.StableAddress

/-!
# The grammar of descriptors

A descriptor is an address in brackets or a name, with or without a port behind a colon. What is
read is said by `Descriptor.Writes`, without the reader, for texts without white space around them. An
address ends at the first closing bracket, so the text of its port may hold anything; a name and the
text of its port hold no colon.

`Descriptor.read_grammar`: the descriptors of the grammar are read, and all other values are refused
as configurations, without a report.
-/

namespace BucketMap

open Text Address

/-! ## Hosts of descriptors -/

namespace Address

theorem normalize_bracketed {bare : Text} (hne : bare ≠ []) :
    normalize (bracketed bare) = .ok (canonical bare) :=
  normalize_eq_ok_iff.mpr ⟨bare, unbracket_strip_bracketed bare, hne, rfl⟩

theorem exists_normalize_bracketed_iff {bare : Text} :
    (∃ address, normalize (bracketed bare) = .ok address) ↔ bare ≠ [] := by
  constructor
  · rintro ⟨address, h⟩ rfl
    cases h
  · intro hne
    exact ⟨canonical bare, normalize_bracketed hne⟩

/-- A host that no bracket opens is a name. -/
theorem normalize_name_iff {host address : Text}
    (hopens : (strip host).head? ≠ some (CodePoint.ofChar '[')) :
    normalize host = .ok address ↔
      strip host ≠ [] ∧ (strip host).getLast? ≠ some (CodePoint.ofChar ']') ∧
        canonical (strip host) = address := by
  rw [normalize_eq_ok_iff]
  constructor
  · rintro ⟨bare, hbare, hne, hcanonical⟩
    rcases unbracket_eq_ok_iff.mp hbare with hpair | ⟨rfl, -, hcloses⟩
    · rw [hpair] at hopens
      exact absurd (head_bracketed bare) hopens
    · exact ⟨hne, hcloses, hcanonical⟩
  · rintro ⟨hne, hcloses, hcanonical⟩
    have hbare : unbracket (strip host) = .ok (strip host) :=
      unbracket_eq_ok_iff.mpr (.inr ⟨rfl, hopens, hcloses⟩)
    exact ⟨strip host, hbare, hne, hcanonical⟩

end Address

namespace Descriptor

/-! ## The grammar -/

/-- What stands behind a host: nothing, or a colon and the text of a port. -/
def portPart : Option Text → Text
  | none => []
  | some port => CodePoint.ofChar ':' :: port

/-- The text is a descriptor with this host, in its brackets, and this text of a port. -/
inductive Writes : Text → Text → Option Text → Prop
  | address {inner : Text} {port : Option Text} (hne : inner ≠ [])
      (hcloses : CodePoint.ofChar ']' ∉ inner) :
      Writes (bracketed inner ++ portPart port) (bracketed inner) port
  | name {host : Text} {port : Option Text} (hopens : host.head? ≠ some (CodePoint.ofChar '['))
      (hcolon : CodePoint.ofChar ':' ∉ host) (hport : ∀ p, port = some p → CodePoint.ofChar ':' ∉ p)
      (hne : strip host ≠ []) (hcloses : (strip host).getLast? ≠ some (CodePoint.ofChar ']')) :
      Writes (host ++ portPart port) host port

/-! ## Cutting a descriptor -/

variable {t host : Text} {port : Option Text}

theorem exists_cons_of_head {before after : Text}
    (h : (before ++ CodePoint.ofChar ']' :: after).head? = some (CodePoint.ofChar '[')) :
    ∃ inner, before = CodePoint.ofChar '[' :: inner := by
  cases before with
  | nil => cases h
  | cons c inner =>
    cases h
    exact ⟨inner, rfl⟩

/-- The first closing bracket ends what the first bracket opens. -/
theorem cut_closing_eq_some_iff {before after : Text}
    (hopens : t.head? = some (CodePoint.ofChar '[')) :
    cut ']' t = (before, some after) ↔
      ∃ inner, CodePoint.ofChar ']' ∉ inner ∧ before = CodePoint.ofChar '[' :: inner ∧
        t = bracketed inner ++ after := by
  rw [cut_eq_some_iff]
  constructor
  · rintro ⟨rfl, hno⟩
    obtain ⟨inner, rfl⟩ := exists_cons_of_head hopens
    exact ⟨inner, fun hmem => hno (List.mem_cons_of_mem _ hmem), rfl, by simp [bracketed]⟩
  · rintro ⟨inner, hno, rfl, rfl⟩
    refine ⟨by simp [bracketed], ?_⟩
    rw [List.mem_cons, not_or]
    exact ⟨by decide, hno⟩

theorem split?_of_opened (hopens : t.head? = some (CodePoint.ofChar '[')) :
    split? t = some (host, port) ↔
      ∃ inner, CodePoint.ofChar ']' ∉ inner ∧ host = bracketed inner ∧ t = host ++ portPart port := by
  unfold split?
  rw [if_pos hopens]
  constructor
  · intro h
    split at h
    · cases h
    · rename_i before hcut
      cases h
      obtain ⟨inner, hno, rfl, rfl⟩ := (cut_closing_eq_some_iff hopens).mp hcut
      exact ⟨inner, hno, rfl, rfl⟩
    · rename_i before c rest hcut
      split at h
      · rename_i hc
        cases h
        subst hc
        obtain ⟨inner, hno, rfl, rfl⟩ := (cut_closing_eq_some_iff hopens).mp hcut
        exact ⟨inner, hno, rfl, rfl⟩
      · cases h
  · rintro ⟨inner, hno, rfl, rfl⟩
    have hcut := (cut_closing_eq_some_iff hopens).mpr ⟨inner, hno, rfl, rfl⟩
    rw [hcut]
    cases port with
    | none => rfl
    | some p => exact if_pos rfl

theorem split?_of_not_opened (hopens : t.head? ≠ some (CodePoint.ofChar '[')) :
    split? t = some (host, port) ↔
      t = host ++ portPart port ∧ CodePoint.ofChar ':' ∉ host ∧
        ∀ p, port = some p → CodePoint.ofChar ':' ∉ p := by
  unfold split?
  rw [if_neg hopens]
  constructor
  · intro h
    split at h
    · rename_i piece hsplit
      cases h
      obtain ⟨rfl, hno⟩ := (splitOn_eq_iff (by simp)).mp hsplit
      exact ⟨by simp [join, portPart], hno _ (by simp), by simp⟩
    · rename_i first second hsplit
      cases h
      obtain ⟨rfl, hno⟩ := (splitOn_eq_iff (by simp)).mp hsplit
      refine ⟨by simp [join, portPart], hno _ (by simp), ?_⟩
      rintro _ ⟨rfl⟩
      exact hno _ (by simp)
    · cases h
  · rintro ⟨rfl, hhost, hport⟩
    cases port with
    | none =>
      have hsplit : splitOn ':' (host ++ portPart none) = [host] :=
        (splitOn_eq_iff (by simp)).mpr ⟨by simp [join, portPart], by simpa using hhost⟩
      rw [hsplit]
    | some p =>
      have hsplit : splitOn ':' (host ++ portPart (some p)) = [host, p] :=
        (splitOn_eq_iff (by simp)).mpr ⟨by simp [join, portPart], by simpa using ⟨hhost, hport p rfl⟩⟩
      rw [hsplit]

theorem head?_append_portPart (hne : host ≠ []) (port : Option Text) :
    (host ++ portPart port).head? = host.head? :=
  List.head?_append_of_ne_nil _ hne

/-- No white space stands in front of the host of a descriptor. -/
theorem head?_strip_host (ht : Trim (host ++ portPart port)) (hne : host ≠ []) :
    (strip host).head? = host.head? := by
  apply head?_strip
  intro c hc
  exact ht.1 c ((head?_append_portPart hne port).trans hc)

/-- A descriptor is of the grammar exactly if it can be cut and its host has a normal form. -/
theorem writes_iff (ht : Trim t) :
    Writes t host port ↔
      split? t = some (host, port) ∧ ∃ address, normalize host = .ok address := by
  constructor
  · intro h
    cases h with
    | @address inner _ hne hcloses =>
      have hopens : (bracketed inner ++ portPart port).head? = some (CodePoint.ofChar '[') := rfl
      refine ⟨(split?_of_opened hopens).mpr ⟨inner, hcloses, rfl, rfl⟩, ?_⟩
      exact exists_normalize_bracketed_iff.mpr hne
    | name hopens hcolon hport hne hcloses =>
      have hhost : host ≠ [] := by
        rintro rfl
        exact hne rfl
      have hhead := head?_append_portPart hhost port
      have hsplit := (split?_of_not_opened (hhead ▸ hopens)).mpr ⟨rfl, hcolon, hport⟩
      have hstrip := head?_strip_host ht hhost
      exact ⟨hsplit, _, (normalize_name_iff (hstrip ▸ hopens)).mpr ⟨hne, hcloses, rfl⟩⟩
  · rintro ⟨hsplit, address, haddress⟩
    by_cases hopens : t.head? = some (CodePoint.ofChar '[')
    · obtain ⟨inner, hcloses, rfl, rfl⟩ := (split?_of_opened hopens).mp hsplit
      exact .address (exists_normalize_bracketed_iff.mp ⟨address, haddress⟩) hcloses
    · obtain ⟨rfl, hcolon, hport⟩ := (split?_of_not_opened hopens).mp hsplit
      have hhost : host ≠ [] := by
        rintro rfl
        cases haddress
      rw [head?_append_portPart hhost port] at hopens
      have hstrip := head?_strip_host ht hhost
      obtain ⟨hne, hcloses, -⟩ := (normalize_name_iff (hstrip ▸ hopens)).mp haddress
      exact .name hopens hcolon hport hne hcloses

theorem not_writes_nil : ¬ Writes [] host port := by
  rw [writes_iff ⟨by simp, by simp⟩]
  rintro ⟨hsplit, address, haddress⟩
  cases hsplit
  cases haddress

/-! ## Reading -/

theorem readStripped_of_writes (log : Channel) (ht : Trim t) (h : Writes t host port) :
    ∃ address p records, normalize host = .ok address ∧ PortRead log t port p records ∧
      readStripped log t = ⟨records, .ok ⟨address, p⟩⟩ := by
  obtain ⟨hsplit, address, haddress⟩ := (writes_iff ht).mp h
  obtain ⟨p, records, hport, hread⟩ := exists_portRead log t port
  refine ⟨address, p, records, haddress, hport, ?_⟩
  unfold readStripped
  simp only [hsplit, haddress, hread]
  rw [Run.bind_eq, Run.andThen]
  exact congrArg (Run.mk · _) (List.append_nil records)

theorem refuse_descriptor {raw : Json} (hraw : raw.Writable) :
    (Run.refuse (.descriptor raw) : Run Descriptor) =
      ⟨[], .error (.configuration (.descriptor raw))⟩ :=
  Run.refuse_of_writable (writable_descriptor hraw)

theorem readStripped_of_not_writes (log : Channel) (ht : Trim t)
    (h : ∀ host port, ¬ Writes t host port) :
    ∃ fault, readStripped log t = ⟨[], .error (.configuration fault)⟩ := by
  cases hsplit : split? t with
  | none =>
    have hread : readStripped log t = Run.refuse (.descriptor (.str t)) := by
      rw [readStripped, hsplit]
    exact ⟨_, hread.trans (refuse_descriptor (Json.writable_str t))⟩
  | some cut =>
    obtain ⟨host, port⟩ := cut
    cases haddress : normalize host with
    | ok address => exact absurd ((writes_iff ht).mpr ⟨hsplit, address, haddress⟩) (h host port)
    | error fault =>
      have hread : readStripped log t = Run.refuse (.address fault) := by
        rw [readStripped, hsplit]
        dsimp only
        rw [haddress]
      exact ⟨_, hread.trans (Run.refuse_of_writable (writable_address fault))⟩

theorem read_str (log : Option Channel) (hne : strip t ≠ []) :
    read log (.str t) = readStripped (log.getD .resolver) (strip t) := by
  unfold read
  exact if_neg (by simpa using hne)

theorem read_of_writes (log : Option Channel) (h : Writes (strip t) host port) :
    ∃ address p records, normalize host = .ok address ∧
      PortRead (log.getD .resolver) (strip t) port p records ∧
      read log (.str t) = ⟨records, .ok ⟨address, p⟩⟩ := by
  have hne : strip t ≠ [] := by
    intro hnil
    rw [hnil] at h
    exact not_writes_nil h
  rw [read_str log hne]
  exact readStripped_of_writes _ (trim_strip t) h

theorem read_of_not_writes (log : Option Channel) {raw : Json} (hraw : raw.Writable)
    (h : ¬ ∃ t host port, raw = .str t ∧ Writes (strip t) host port) :
    ∃ fault, read log raw = ⟨[], .error (.configuration fault)⟩ := by
  have hrefuse := refuse_descriptor hraw
  cases raw with
  | str t =>
    by_cases hne : strip t = []
    · have hread : read log (.str t) = Run.refuse (.descriptor (.str t)) := by
        unfold read
        exact if_pos (by simpa using hne)
      exact ⟨_, hread.trans hrefuse⟩
    · rw [read_str log hne]
      exact readStripped_of_not_writes _ (trim_strip t)
        fun host port hwrites => h ⟨t, host, port, rfl, hwrites⟩
  | _ => exact ⟨_, hrefuse⟩

/-- **The grammar of descriptors.** A value is read exactly if it is a text that is a descriptor
without the white space around it. Its address is the normal form of the host, and its port is the
one that the text of the port stands for; only a port that is no numeral is reported. Every other
value is refused. -/
theorem read_grammar (log : Option Channel) {raw : Json} (hraw : raw.Writable) :
    ((∃ d, (read log raw).outcome = .ok d) ↔
        ∃ t host port, raw = .str t ∧ Writes (strip t) host port) ∧
      (∀ t host port, raw = .str t → Writes (strip t) host port →
        ∃ address p records, normalize host = .ok address ∧
          PortRead (log.getD .resolver) (strip t) port p records ∧
          read log raw = ⟨records, .ok ⟨address, p⟩⟩) ∧
      ((¬ ∃ d, (read log raw).outcome = .ok d) →
        ∃ fault, read log raw = ⟨[], .error (.configuration fault)⟩) := by
  have haccept : (∃ t host port, raw = .str t ∧ Writes (strip t) host port) →
      ∃ d, (read log raw).outcome = .ok d := by
    rintro ⟨t, host, port, rfl, hwrites⟩
    obtain ⟨address, p, records, -, -, hread⟩ := read_of_writes log hwrites
    exact ⟨⟨address, p⟩, by rw [hread]⟩
  refine ⟨⟨?_, haccept⟩, ?_, ?_⟩
  · rintro ⟨d, hd⟩
    by_contra hno
    obtain ⟨fault, hread⟩ := read_of_not_writes log hraw hno
    rw [hread] at hd
    cases hd
  · rintro t host port rfl hwrites
    exact read_of_writes log hwrites
  · intro hno
    exact read_of_not_writes log hraw fun hwrites => hno (haccept hwrites)

/-! ### An address with a port that is no numeral -/

/-- The scope holds a bracket and the text of the port a colon. -/
def looseDescriptor : Text := Text.ofString " [FE80:0::1%[a]:1:2 "

theorem writes_looseDescriptor :
    Writes (strip looseDescriptor) (Text.ofString "[FE80:0::1%[a]")
      (some (Text.ofString "1:2")) := by
  have hstrip : strip looseDescriptor =
      bracketed (Text.ofString "FE80:0::1%[a") ++ portPart (some (Text.ofString "1:2")) := rfl
  rw [hstrip]
  exact .address (by decide) (by decide)

theorem read_grammar_loose :
    (Json.str looseDescriptor).Writable ∧
      Writes (strip looseDescriptor) (Text.ofString "[FE80:0::1%[a]") (some (Text.ofString "1:2")) ∧
      read none (.str looseDescriptor) =
        ⟨[portReport .resolver (strip looseDescriptor)], .ok ⟨Text.ofString "fe80::1%[a", 0⟩⟩ ∧
      (Json.arr []).Writable ∧
      ∃ fault, read none (.arr []) = ⟨[], .error (.configuration fault)⟩ := by
  have hwritable : (Json.str looseDescriptor).Writable := Json.writable_str _
  have hwritable' : (Json.arr []).Writable := Json.writable_arr (by simp)
  obtain ⟨-, hreads, -⟩ := read_grammar none hwritable
  obtain ⟨hiff, -, hrefuses⟩ := read_grammar none hwritable'
  refine ⟨hwritable, writes_looseDescriptor, ?_, hwritable', hrefuses ?_⟩
  · obtain ⟨address, p, records, haddress, hport, hread⟩ :=
      hreads _ _ _ rfl writes_looseDescriptor
    obtain rfl : Text.ofString "fe80::1%[a" = address := Except.ok.inj haddress
    cases hport with
    | numeral h => cases h
    | other _ => exact hread
  · rw [hiff]
    rintro ⟨_, _, _, hraw, -⟩
    cases hraw

end Descriptor

end BucketMap
