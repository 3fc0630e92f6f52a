import BucketMap.Run

/-!
# Messages that can be written

A message cannot be written only if an integer in it has more than `Numeral.maxDigits` digits. A
failure or a record whose message has such an integer gives way to `Failure.numeralTooLong`, so
what a run reports is certain only for short integers.

* `Numeral.Writable`, `Json.Writable` and `Message.Writable` say that all integers are short
  enough; then writing succeeds (`Message.render_of_writable`).
* A record with a writable message is written and nothing else happens (`Run.emit_of_writable`), a
  failure with a writable message stays what it is (`Failure.sayable_of_writable`).
-/

namespace BucketMap

/-! ## Integers -/

namespace Numeral

/-- The integer has at most the given number of digits. -/
def Fits (digits : Nat) (n : Int) : Prop := n.natAbs < Nat.pow 10 digits

instance (digits : Nat) (n : Int) : Decidable (Fits digits n) := inferInstanceAs (Decidable (_ < _))

/-- The integer is short enough to be written. -/
def Writable (n : Int) : Prop := Fits maxDigits n

theorem Fits.mono {digits more : Nat} {n : Int} (h : Fits digits n) (hle : digits ≤ more) :
    Fits more n :=
  Nat.lt_of_lt_of_le h (Nat.pow_le_pow_right (by omega) hle)

theorem Fits.writable {digits : Nat} {n : Int} (h : Fits digits n) (hle : digits ≤ maxDigits) :
    Writable n := h.mono hle

theorem fits_of_lt_ten {digits : Nat} {n : Int} (h : n.natAbs < 10) (hd : 0 < digits) :
    Fits digits n := by
  have hone : Fits 1 n := h
  exact hone.mono hd

@[simp]
theorem writable_zero : Writable 0 := fits_of_lt_ten (by decide) (by decide)

@[simp]
theorem writable_one : Writable 1 := fits_of_lt_ten (by decide) (by decide)

/-- One step towards zero or away from it costs at most one digit. -/
theorem Fits.sub_one {digits : Nat} {n : Int} (h : Fits digits n) : Fits (digits + 1) (n - 1) := by
  unfold Fits at h ⊢
  have hpos : 0 < Nat.pow 10 digits := Nat.pow_pos (by omega)
  have hstep : Nat.pow 10 (digits + 1) = Nat.pow 10 digits * 10 := rfl
  omega

theorem length_natural_le {n : Int} {digits : Nat} (hd : 0 < digits) :
    (natural n.natAbs).length ≤ digits ↔ Fits digits n := by
  unfold natural
  rw [List.length_map]
  exact Nat.length_toDigits_le_iff (by omega) hd

theorem write_of_writable {n : Int} (h : Writable n) : write n = .ok (numeral n) := by
  have hlen : (natural n.natAbs).length ≤ maxDigits := (length_natural_le (by decide)).mpr h
  unfold write
  rw [if_neg (by omega)]

theorem writable_of_write {n : Int} {t : Text} (h : write n = .ok t) : Writable n := by
  unfold write at h
  split at h
  · cases h
  · exact (length_natural_le (by decide)).mp (by omega)

end Numeral

/-! ## Values -/

namespace Json

mutual

/-- All integers in a value can be written. -/
def Writable : Json → Prop
  | int n => Numeral.Writable n
  | arr items => ItemsWritable items
  | obj fields => FieldsWritable fields
  | null => True
  | bool _ => True
  | float _ => True
  | str _ => True

/-- All integers in the members of an array can be written. -/
def ItemsWritable : List Json → Prop
  | [] => True
  | item :: items => item.Writable ∧ ItemsWritable items

/-- All integers in the members of an object can be written. -/
def FieldsWritable : List (Text × Json) → Prop
  | [] => True
  | (_, value) :: fields => value.Writable ∧ FieldsWritable fields

end

mutual

theorem shown_of_writable : ∀ v : Json, v.Writable → ∃ t, v.shown = .ok t
  | null, _ => ⟨_, by rw [shown]⟩
  | bool true, _ => ⟨_, by rw [shown]⟩
  | bool false, _ => ⟨_, by rw [shown]⟩
  | int n, h => by
    rw [Writable] at h
    exact ⟨_, by rw [shown, Numeral.write_of_writable h]⟩
  | float x, _ => ⟨_, by rw [shown]⟩
  | str t, _ => ⟨_, by rw [shown]⟩
  | arr items, h => by
    rw [Writable] at h
    obtain ⟨ts, hts⟩ := shownItems_of_writable items h
    rw [shown, hts]
    exact ⟨_, rfl⟩
  | obj fields, h => by
    rw [Writable] at h
    obtain ⟨ts, hts⟩ := shownFields_of_writable fields h
    rw [shown, hts]
    exact ⟨_, rfl⟩

theorem shownItems_of_writable :
    ∀ items : List Json, ItemsWritable items → ∃ ts, shownItems items = .ok ts
  | [], _ => ⟨_, by rw [shownItems]⟩
  | item :: items, h => by
    rw [ItemsWritable] at h
    obtain ⟨t, ht⟩ := shown_of_writable item h.1
    obtain ⟨ts, hts⟩ := shownItems_of_writable items h.2
    rw [shownItems, ht, hts]
    exact ⟨_, rfl⟩

theorem shownFields_of_writable :
    ∀ fields : List (Text × Json), FieldsWritable fields → ∃ ts, shownFields fields = .ok ts
  | [], _ => ⟨_, by rw [shownFields]⟩
  | (key, value) :: fields, h => by
    rw [FieldsWritable] at h
    obtain ⟨t, ht⟩ := shown_of_writable value h.1
    obtain ⟨ts, hts⟩ := shownFields_of_writable fields h.2
    rw [shownFields, ht, hts]
    exact ⟨_, rfl⟩

end

theorem display_of_writable {v : Json} (h : v.Writable) : ∃ t, v.display = .ok t := by
  cases v with
  | str t => exact ⟨t, rfl⟩
  | _ =>
    unfold display
    exact shown_of_writable _ h

theorem writable_str (t : Text) : (str t).Writable := by
  rw [Writable]
  trivial

theorem writable_arr {items : List Json} (h : ∀ v ∈ items, v.Writable) : (arr items).Writable := by
  rw [Writable]
  induction items with
  | nil => rw [ItemsWritable]; trivial
  | cons v items ih =>
    rw [ItemsWritable]
    exact ⟨h v List.mem_cons_self, ih fun w hw => h w (List.mem_cons_of_mem _ hw)⟩

end Json

/-! ## Messages -/

/-- The integers in a piece can be written. -/
@[simp]
def Piece.Writable : Piece → Prop
  | int n => Numeral.Writable n
  | display v => v.Writable
  | shown v => v.Writable
  | words _ => True
  | text _ => True
  | quoted _ => True
  | count _ => True

theorem Piece.render_of_writable {piece : Piece} (h : piece.Writable) :
    ∃ t, piece.render = .ok t := by
  cases piece with
  | int n => exact ⟨_, Numeral.write_of_writable h⟩
  | display v => exact Json.display_of_writable h
  | shown v => exact Json.shown_of_writable v h
  | words s => exact ⟨_, rfl⟩
  | text t => exact ⟨_, rfl⟩
  | quoted t => exact ⟨_, rfl⟩
  | count n => exact ⟨_, rfl⟩

namespace Message

/-- All integers in a message can be written. -/
@[simp]
def Writable : Message → Prop
  | [] => True
  | piece :: pieces => piece.Writable ∧ Writable pieces

theorem render_of_writable {message : Message} (h : message.Writable) :
    ∃ t, message.render = .ok t := by
  induction message with
  | nil => exact ⟨[], rfl⟩
  | cons piece pieces ih =>
    obtain ⟨t, ht⟩ := Piece.render_of_writable h.1
    obtain ⟨ts, hts⟩ := ih h.2
    exact ⟨t ++ ts, by rw [render, ht, hts]; rfl⟩

theorem writable_append {first second : Message} (hfirst : first.Writable)
    (hsecond : second.Writable) : Writable (first ++ second) := by
  induction first with
  | nil => exact hsecond
  | cons piece pieces ih => exact ⟨hfirst.1, ih hfirst.2⟩

theorem writable_of_int_mem {message : Message} {t : Text} {n : Int}
    (h : message.render = .ok t) (hn : Piece.int n ∈ message) : Numeral.Writable n := by
  induction message generalizing t with
  | nil => cases hn
  | cons piece pieces ih =>
    rw [render] at h
    cases hp : piece.render with
    | error e => rw [hp] at h; cases h
    | ok first =>
      rw [hp] at h
      cases hps : Message.render pieces with
      | error e => rw [hps] at h; cases h
      | ok others =>
        rcases List.mem_cons.mp hn with rfl | hn
        · exact Numeral.writable_of_write hp
        · exact ih hps hn

end Message

/-! ## Messages of faults -/

theorem writable_integerFault (fault : IntegerFault) : fault.message.Writable := by
  cases fault with
  | numeral fault => cases fault <;> simp [IntegerFault.message, NumeralFault.message]
  | notANumber => simp [IntegerFault.message]
  | infinite => simp [IntegerFault.message]
  | wrongKind kind => simp [IntegerFault.message]

theorem writable_portFault (fault : PortFault) : fault.message.Writable := by
  cases fault with
  | integer fault => exact writable_integerFault fault
  | ports kind => simp [PortFault.message]
  | services kind => simp [PortFault.message]
  | url kind => by_cases h : kind = .arr ∨ kind = .obj <;> simp [PortFault.message, h]

theorem writable_extendedPort {host : Json} (h : host.Writable) (fault : PortFault) :
    (ConfigurationFault.extendedPort host fault).message.Writable :=
  Message.writable_append (by simpa using h) (writable_portFault fault)

theorem writable_nodePort (host : Text) (fault : PortFault) :
    (ConfigurationFault.nodePort host fault).message.Writable :=
  Message.writable_append (by simp) (writable_portFault fault)

theorem writable_address (fault : Address.Fault) :
    (ConfigurationFault.address fault).message.Writable := by
  cases fault <;> simp [ConfigurationFault.message, Address.Fault.message]

/-! ## Records and failures -/

theorem Run.emit_of_writable (channel : Channel) (severity : Severity) {message : Message}
    (h : message.Writable) :
    ∃ text, Run.emit channel severity message = ⟨[⟨channel, severity, text⟩], .ok ()⟩ := by
  obtain ⟨text, ht⟩ := Message.render_of_writable h
  refine ⟨text, ?_⟩
  unfold Run.emit
  rw [ht]

/-- Only what can be written is reported. -/
theorem Run.writable_of_emit {channel : Channel} {severity : Severity} {message : Message} {n : Int}
    (h : (Run.emit channel severity message).outcome = .ok ()) (hn : Piece.int n ∈ message) :
    Numeral.Writable n := by
  unfold Run.emit at h
  cases ht : message.render with
  | error e => rw [ht] at h; cases h
  | ok text => exact Message.writable_of_int_mem ht hn

theorem Failure.sayable_of_writable {f : Failure} (h : f.message.Writable) : f.sayable = f := by
  obtain ⟨text, ht⟩ := Message.render_of_writable h
  unfold Failure.sayable
  rw [ht]

end BucketMap
