import BucketMap.Inspector
import BucketMap.Proofs.KeyHash
import BucketMap.Proofs.Outcome

/-!
# Printed lines

The inspector prints line by line, and the first line that the stream refuses ends that. `Lines` is
the text of all lines. It is printed if the stream takes every line
(`Inspector.printLines_of_takesAll`), and otherwise a start of it is, before a failure
(`Inspector.exists_failure_of_not_takesAll`, `Inspector.output_prefix`).

A stream of UTF-8 takes exactly what has no surrogates (`Inspector.utf8_eq_ok_iff`). The text of a
message has none if the texts of its pieces have none (`Message.encodable_iff`), and numerals and
fixed words never have any.
-/

namespace BucketMap

/-! ## Texts without surrogates -/

/-- The text has no surrogates. -/
def Text.Encodable (t : Text) : Prop := ∀ c ∈ t, c.isSurrogate = false

theorem Text.encodable_append {s t : Text} : (s ++ t).Encodable ↔ s.Encodable ∧ t.Encodable :=
  List.forall_mem_append

theorem Text.encodable_map_ofChar (cs : List Char) : Text.Encodable (cs.map CodePoint.ofChar) := by
  intro c hc
  obtain ⟨char, -, rfl⟩ := List.mem_map.mp hc
  exact CodePoint.isSurrogate_ofChar char

theorem Text.encodable_ofString (s : String) : (Text.ofString s).Encodable :=
  encodable_map_ofChar s.toList

theorem Numeral.encodable_natural (n : Nat) : (natural n).Encodable :=
  Text.encodable_map_ofChar (Nat.toDigits 10 n)

theorem Numeral.encodable_numeral (n : Int) : (numeral n).Encodable := by
  unfold numeral
  split
  · intro c hc
    rcases List.mem_cons.mp hc with rfl | hc
    · exact CodePoint.isSurrogate_ofChar '-'
    · exact encodable_natural _ c hc
  · exact encodable_natural _

/-- The text of the piece has no surrogates. -/
def Piece.Encodable (piece : Piece) : Prop := ∀ t, piece.render = .ok t → t.Encodable

@[simp]
theorem Piece.encodable_words (s : String) : (words s).Encodable := by
  rintro t ⟨⟩
  exact Text.encodable_ofString s

@[simp]
theorem Piece.encodable_text {t : Text} : (text t).Encodable ↔ t.Encodable := by
  constructor
  · intro h
    exact h t rfl
  · rintro h _ ⟨⟩
    exact h

@[simp]
theorem Piece.encodable_int (n : Int) : (int n).Encodable := by
  intro t ht
  have hwrite : Numeral.write n = .ok t := ht
  unfold Numeral.write at hwrite
  split at hwrite
  · cases hwrite
  · cases hwrite
    exact Numeral.encodable_numeral n

@[simp]
theorem Piece.encodable_count (n : Nat) : (count n).Encodable := by
  rintro t ⟨⟩
  exact Numeral.encodable_natural n

theorem Message.encodable_iff {message : Message} {t : Text} (h : message.render = .ok t) :
    t.Encodable ↔ ∀ piece ∈ message, piece.Encodable := by
  induction message generalizing t with
  | nil =>
    cases h
    simp [Text.Encodable]
  | cons piece pieces ih =>
    rw [render] at h
    obtain ⟨first, hfirst, h⟩ := bind_eq_ok_iff.mp h
    obtain ⟨others, hothers, h⟩ := bind_eq_ok_iff.mp h
    cases h
    have hpiece : piece.Encodable ↔ first.Encodable := by
      unfold Piece.Encodable
      simp [hfirst]
    rw [Text.encodable_append, List.forall_mem_cons, ih hothers, hpiece]

/-! ## Lines -/

/-- The text has the messages on its lines. -/
inductive Lines : List Message → Text → Prop
  | nil : Lines [] []
  | cons {m : Message} {t : Text} {messages : List Message} {others : Text}
      (hm : m.render = .ok t) (hothers : Lines messages others) :
      Lines (m :: messages) (t ++ Text.ofString "\n" ++ others)

theorem exists_lines {messages : List Message} (h : ∀ m ∈ messages, m.Writable) :
    ∃ t, Lines messages t := by
  induction messages with
  | nil => exact ⟨[], .nil⟩
  | cons m messages ih =>
    obtain ⟨hm, hmessages⟩ := List.forall_mem_cons.mp h
    obtain ⟨t, ht⟩ := Message.render_of_writable hm
    obtain ⟨others, hothers⟩ := ih hmessages
    exact ⟨_, .cons ht hothers⟩

namespace Inspector

variable {printer : Printer} {messages : List Message} {text : Text}

/-- The stream takes the texts of all messages. -/
def TakesAll (printer : Printer) (messages : List Message) : Prop :=
  ∀ m ∈ messages, ∀ t, m.render = .ok t → printer t = .ok ()

theorem printLine_of_render {m : Message} {t : Text} (hm : m.render = .ok t) :
    printLine printer m = printer t >>= fun _ => .ok (t ++ Text.ofString "\n") := by
  rw [printLine, hm]
  rfl

theorem printLine_of_ok {m : Message} {t : Text} (hm : m.render = .ok t) (ht : printer t = .ok ()) :
    printLine printer m = .ok (t ++ Text.ofString "\n") := by
  rw [printLine_of_render hm, ht]
  rfl

theorem printLine_of_error {m : Message} {t : Text} {f : Failure} (hm : m.render = .ok t)
    (ht : printer t = .error f) : printLine printer m = .error f := by
  rw [printLine_of_render hm, ht]
  rfl

theorem printLines_of_takesAll (hl : Lines messages text) (ht : TakesAll printer messages) :
    printLines printer messages = ⟨text, none⟩ := by
  induction hl with
  | nil => rfl
  | cons hm _ ih =>
    obtain ⟨hfirst, hothers⟩ := List.forall_mem_cons.mp ht
    rw [printLines, printLine_of_ok hm (hfirst _ hm), ih hothers]

theorem exists_failure_of_not_takesAll (hl : Lines messages text)
    (ht : ¬ TakesAll printer messages) : ∃ f, (printLines printer messages).failure = some f := by
  induction hl with
  | nil => exact absurd (by simp [TakesAll]) ht
  | @cons m t messages _ hm _ ih =>
    rw [printLines]
    cases hfirst : printer t with
    | error f => exact ⟨f, by rw [printLine_of_error hm hfirst]⟩
    | ok =>
      have hothers : ¬ TakesAll printer messages := by
        intro hothers
        refine ht (List.forall_mem_cons.mpr ⟨fun t' ht' => ?_, hothers⟩)
        cases hm.symm.trans ht'
        exact hfirst
      rw [printLine_of_ok hm hfirst]
      exact ih hothers

/-- Whatever the stream takes, what is printed is a start of all the lines. -/
theorem output_prefix (printer : Printer) (hl : Lines messages text) :
    (printLines printer messages).output <+: text := by
  induction hl with
  | nil => exact List.prefix_rfl
  | @cons m t _ _ hm _ ih =>
    rw [printLines]
    cases hfirst : printer t with
    | error f =>
      rw [printLine_of_error hm hfirst]
      exact List.nil_prefix
    | ok =>
      rw [printLine_of_ok hm hfirst]
      exact (List.prefix_append_right_inj _).mpr ih

/-! ## A stream of UTF-8 -/

theorem utf8_eq_ok_iff {t : Text} : Printer.utf8 t = .ok () ↔ t.Encodable := by
  unfold Printer.utf8 Utf8.encode
  constructor
  · intro h
    by_contra hno
    obtain ⟨run, hrun⟩ := Utf8.exists_surrogateRun hno
    rw [hrun] at h
    cases h
  · intro h
    rw [Utf8.surrogateRun?_eq_none h]

theorem takesAll_utf8_iff (hw : ∀ m ∈ messages, m.Writable) :
    TakesAll .utf8 messages ↔ ∀ m ∈ messages, ∀ piece ∈ m, piece.Encodable := by
  unfold TakesAll
  refine forall₂_congr fun m hm => ?_
  obtain ⟨t, ht⟩ := Message.render_of_writable (hw m hm)
  rw [← Message.encodable_iff ht, ← utf8_eq_ok_iff]
  constructor
  · intro h
    exact h t ht
  · intro h t' ht'
    cases ht.symm.trans ht'
    exact h

end Inspector

end BucketMap
