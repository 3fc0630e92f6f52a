import BucketMap.Json.Reader
import BucketMap.Proofs.FloatFormat
import BucketMap.Proofs.Outcome
import Mathlib.Data.List.TakeWhile

/-!
# Values that come from JSON text

A reader of JSON refuses integers that are too long and rounds floats to the 64-bit format. So every
value that it gives is admissible (`Json.ofText_admissible`, `Json.ofBytes_admissible`): all its
integers can be written and all its floats are in the format. The invariant of the reader is that
everything on its stack is admissible.
-/

namespace BucketMap

namespace Json

mutual

/-- All integers in a value can be written, and all its floats are in the 64-bit format. -/
def Admissible : Json → Prop
  | int n => Numeral.Writable n
  | float x => x.InFormat
  | arr items => ItemsAdmissible items
  | obj fields => FieldsAdmissible fields
  | null => True
  | bool _ => True
  | str _ => True

/-- All members of an array are admissible. -/
def ItemsAdmissible : List Json → Prop
  | [] => True
  | item :: items => item.Admissible ∧ ItemsAdmissible items

/-- All members of an object are admissible. -/
def FieldsAdmissible : List (Text × Json) → Prop
  | [] => True
  | (_, value) :: fields => value.Admissible ∧ FieldsAdmissible fields

end

mutual

theorem Admissible.writable : ∀ {v : Json}, v.Admissible → v.Writable
  | null, _ => by rw [Writable]; trivial
  | bool _, _ => by rw [Writable]; trivial
  | str _, _ => by rw [Writable]; trivial
  | float _, _ => by rw [Writable]; trivial
  | int n, h => by
    rw [Admissible] at h
    rwa [Writable]
  | arr items, h => by
    rw [Admissible] at h
    rw [Writable]
    exact itemsWritable_of_admissible h
  | obj fields, h => by
    rw [Admissible] at h
    rw [Writable]
    exact fieldsWritable_of_admissible h

theorem itemsWritable_of_admissible :
    ∀ {items : List Json}, ItemsAdmissible items → ItemsWritable items
  | [], _ => by rw [ItemsWritable]; trivial
  | item :: items, h => by
    rw [ItemsAdmissible] at h
    rw [ItemsWritable]
    exact ⟨Admissible.writable h.1, itemsWritable_of_admissible h.2⟩

theorem fieldsWritable_of_admissible :
    ∀ {fields : List (Text × Json)}, FieldsAdmissible fields → FieldsWritable fields
  | [], _ => by rw [FieldsWritable]; trivial
  | (key, value) :: fields, h => by
    rw [FieldsAdmissible] at h
    rw [FieldsWritable]
    exact ⟨Admissible.writable h.1, fieldsWritable_of_admissible h.2⟩

end

theorem admissible_null : null.Admissible := by
  rw [Admissible]
  trivial

theorem admissible_bool (b : Bool) : (bool b).Admissible := by
  rw [Admissible]
  trivial

theorem admissible_str (t : Text) : (str t).Admissible := by
  rw [Admissible]
  trivial

theorem admissible_int_iff {n : Int} : (int n).Admissible ↔ Numeral.Writable n := by
  rw [Admissible]

theorem admissible_arr_iff {items : List Json} :
    (arr items).Admissible ↔ ∀ v ∈ items, v.Admissible := by
  rw [Admissible]
  induction items with
  | nil => simp [ItemsAdmissible]
  | cons item items ih => rw [ItemsAdmissible, ih, List.forall_mem_cons]

theorem admissible_obj_iff {fields : List (Text × Json)} :
    (obj fields).Admissible ↔ ∀ f ∈ fields, f.2.Admissible := by
  rw [Admissible]
  induction fields with
  | nil => simp [FieldsAdmissible]
  | cons f fields ih =>
    obtain ⟨key, value⟩ := f
    rw [FieldsAdmissible, ih, List.forall_mem_cons]

/-! ## Tokens -/

namespace Token

theorem fits_digitsValue {ds : Text} (h : ∀ c ∈ ds, c.isAsciiDigit = true) {n : Int}
    (hn : n.natAbs = digitsValue ds) : Numeral.Fits ds.length n := by
  have hten : ∀ d ∈ ds.map fun c => c.val - 48, d < 10 := by
    intro d hd
    obtain ⟨c, hc, rfl⟩ := List.mem_map.mp hd
    have hdigit := h c hc
    simp only [CodePoint.isAsciiDigit, Bool.and_eq_true, decide_eq_true_eq] at hdigit
    omega
  have hfits := Numeral.fits_of_valueOf hten hn
  rwa [List.length_map] at hfits

theorem isAsciiDigit_of_mem_whole {t : Text} : ∀ c ∈ (whole t).1, c.isAsciiDigit = true := by
  intro c hc
  unfold whole at hc
  split at hc
  · cases hc
  · split at hc
    · rename_i hzero
      rw [List.mem_singleton.mp hc, hzero]
      rfl
    · exact List.mem_takeWhile_imp hc

theorem isAsciiDigit_of_number? {t rest : Text} {n : Number} (h : number? t = some (n, rest)) :
    ∀ c ∈ n.whole, c.isAsciiDigit = true := by
  unfold number? at h
  dsimp only at h
  split at h
  · cases h
  · split at h
    · cases h
      exact isAsciiDigit_of_mem_whole
    · cases h
      exact isAsciiDigit_of_mem_whole

theorem Number.value_admissible {n : Number} (hdigits : ∀ c ∈ n.whole, c.isAsciiDigit = true)
    (hshort : n.integerDigits ≤ Numeral.maxDigits) : n.value.Admissible := by
  unfold Number.integerDigits at hshort
  unfold Number.value
  dsimp only
  split
  · rename_i hfraction hexponent
    rw [hfraction, hexponent] at hshort
    have hvalue : (if n.negative = true then -(digitsValue n.whole : Int)
        else (digitsValue n.whole : Int)).natAbs = digitsValue n.whole := by
      split <;> simp
    rw [Admissible]
    exact (fits_digitsValue hdigits hvalue).writable hshort
  · rw [Admissible]
    exact Binary64.ofDecimal_inFormat _ _ _

end Token

/-- The value of a scalar is admissible. -/
def Symbol.Admissible : Symbol → Prop
  | .scalar v => v.Admissible
  | _ => True

namespace Token

theorem Number.symbol_admissible {n : Number} (hdigits : ∀ c ∈ n.whole, c.isAsciiDigit = true) :
    (n.symbol (some Numeral.maxDigits)).Admissible := by
  unfold Number.symbol
  dsimp only
  split
  · trivial
  · exact Number.value_admissible hdigits (by omega)

theorem words_admissible : ∀ w ∈ words, w.2.Admissible := by
  unfold words
  simp only [List.forall_mem_cons, List.not_mem_nil, false_implies, implies_true, and_true]
  refine ⟨admissible_null, admissible_bool true, admissible_bool false, ?_, ?_, ?_⟩
  all_goals
    rw [Admissible]
    trivial

theorem mark?_admissible {c : CodePoint} {symbol : Symbol} (h : mark? c = some symbol) :
    symbol.Admissible := by
  unfold mark? at h
  split_ifs at h <;> cases h <;> trivial

theorem symbolAt_admissible (position : Nat) (t : Text) :
    (symbolAt (some Numeral.maxDigits) position t).1.Admissible := by
  unfold symbolAt
  split
  · trivial
  · split
    · rename_i hmark
      exact mark?_admissible hmark
    · split
      · split
        · trivial
        · trivial
      · split
        · rename_i hword
          exact words_admissible _ (List.mem_of_find?_eq_some hword)
        · split
          · rename_i hnumber
            exact Number.symbol_admissible (isAsciiDigit_of_number? hnumber)
          · trivial

theorem listFrom_admissible (fuel position : Nat) (t : Text) :
    ∀ token ∈ listFrom (some Numeral.maxDigits) fuel position t, token.symbol.Admissible := by
  induction fuel generalizing position t with
  | zero =>
    intro token h
    cases h
  | succ fuel ih =>
    intro token h
    rw [listFrom] at h
    dsimp only at h
    rcases List.mem_cons.mp h with rfl | h
    · exact symbolAt_admissible _ _
    · split at h
      · exact ih _ _ token h
      · cases h

end Token

/-! ## The reader -/

/-- All values of an open array or object are admissible. -/
def Frame.Admissible : Frame → Prop
  | .arr items => ∀ v ∈ items, v.Admissible
  | .obj fields _ => ∀ f ∈ fields, f.2.Admissible

/-- All values on a stack are admissible. -/
def StackAdmissible (stack : List Frame) : Prop := ∀ frame ∈ stack, frame.Admissible

/-- All values that a stage holds are admissible. -/
def Stage.Admissible : Stage → Prop
  | .value stack => StackAdmissible stack
  | .firstItem stack => StackAdmissible stack
  | .firstKey stack => StackAdmissible stack
  | .nextKey fields stack => (∀ f ∈ fields, f.2.Admissible) ∧ StackAdmissible stack
  | .colon fields _ stack => (∀ f ∈ fields, f.2.Admissible) ∧ StackAdmissible stack
  | .afterItem items stack => (∀ v ∈ items, v.Admissible) ∧ StackAdmissible stack
  | .afterField fields stack => (∀ f ∈ fields, f.2.Admissible) ∧ StackAdmissible stack
  | .whole v => v.Admissible

theorem setField_admissible {key : Text} {value : Json} {fields : List (Text × Json)}
    (hv : value.Admissible) (hf : ∀ f ∈ fields, f.2.Admissible) :
    ∀ f ∈ setField key value fields, f.2.Admissible := by
  induction fields with
  | nil => simpa [setField] using hv
  | cons f fields ih =>
    obtain ⟨k, v⟩ := f
    obtain ⟨hfirst, hothers⟩ := List.forall_mem_cons.mp hf
    rw [setField]
    split
    · exact List.forall_mem_cons.mpr ⟨hv, hothers⟩
    · exact List.forall_mem_cons.mpr ⟨hfirst, ih hothers⟩

namespace Stage

variable {limits : Limits} {token : Token} {stage next : Stage} {stack : List Frame}

theorem after_admissible {v : Json} (hv : v.Admissible) (hs : StackAdmissible stack) :
    (after v stack).Admissible := by
  cases stack with
  | nil => exact hv
  | cons frame stack =>
    obtain ⟨hframe, hstack⟩ := List.forall_mem_cons.mp hs
    cases frame with
    | arr items => exact ⟨List.forall_mem_cons.mpr ⟨hv, hframe⟩, hstack⟩
    | obj fields key => exact ⟨setField_admissible hv hframe, hstack⟩

theorem readValue_admissible (ht : token.symbol.Admissible) (hs : StackAdmissible stack)
    (h : readValue limits stack token = .ok next) : next.Admissible := by
  unfold readValue at h
  split at h
  · rename_i v hsymbol
    cases h
    rw [hsymbol] at ht
    exact after_admissible ht hs
  · cases h
    exact after_admissible (admissible_str _) hs
  · split at h <;> cases h
    exact hs
  · split at h <;> cases h
    exact hs
  all_goals cases h

theorem readKey_admissible {fields : List (Text × Json)} (hf : ∀ f ∈ fields, f.2.Admissible)
    (hs : StackAdmissible stack) (h : readKey fields stack token = .ok next) :
    next.Admissible := by
  unfold readKey at h
  split at h <;> cases h
  exact ⟨hf, hs⟩

theorem step_admissible (ht : token.symbol.Admissible) (hs : stage.Admissible)
    (h : stage.step limits token = .ok next) : next.Admissible := by
  cases stage with
  | value stack => exact readValue_admissible ht hs h
  | firstItem stack =>
    unfold step at h
    dsimp only at h
    split at h
    · cases h
      exact after_admissible (admissible_arr_iff.mpr (by simp)) hs
    · exact readValue_admissible ht (List.forall_mem_cons.mpr ⟨by simp [Frame.Admissible], hs⟩) h
  | firstKey stack =>
    unfold step at h
    dsimp only at h
    split at h
    · cases h
      exact after_admissible (admissible_obj_iff.mpr (by simp)) hs
    · exact readKey_admissible (by simp) hs h
  | nextKey fields stack => exact readKey_admissible hs.1 hs.2 h
  | colon fields key stack =>
    unfold step at h
    dsimp only at h
    split at h <;> cases h
    exact List.forall_mem_cons.mpr hs
  | afterItem items stack =>
    unfold step at h
    dsimp only at h
    split at h <;> cases h
    · apply after_admissible _ hs.2
      rw [admissible_arr_iff]
      intro v hv
      exact hs.1 v (List.mem_reverse.mp hv)
    · exact List.forall_mem_cons.mpr hs
  | afterField fields stack =>
    unfold step at h
    dsimp only at h
    split at h <;> cases h
    · exact after_admissible (admissible_obj_iff.mpr hs.1) hs.2
    · exact hs
  | whole v => cases h

end Stage

theorem readTokens_admissible {limits : Limits} {tokens : List Token} {stage : Stage} {v : Json}
    (ht : ∀ token ∈ tokens, token.symbol.Admissible) (hs : stage.Admissible)
    (h : readTokens limits stage tokens = .ok v) : v.Admissible := by
  induction tokens generalizing stage with
  | nil => cases h
  | cons token tokens ih =>
    obtain ⟨htoken, htokens⟩ := List.forall_mem_cons.mp ht
    unfold readTokens at h
    split at h
    · cases h
      exact hs
    · obtain ⟨next, hnext, h⟩ := bind_eq_ok_iff.mp h
      exact ih htokens (Stage.step_admissible htoken hs hnext) h

theorem read_admissible {t : Text} {v : Json} (h : read .standard t = .ok v) : v.Admissible := by
  unfold read at h
  split at h
  · rename_i value hread
    cases h
    exact readTokens_admissible (Token.listFrom_admissible _ _ t) (by simp [Stage.Admissible,
      StackAdmissible]) hread
  all_goals cases h

/-- What a text says is admissible. -/
theorem ofText_admissible {t : Text} {v : Json} (h : ofText .standard t = .ok v) :
    v.Admissible := by
  unfold ofText at h
  split at h
  · cases h
  · exact read_admissible h

/-- What bytes say is admissible. -/
theorem ofBytes_admissible {b : Bytes} {v : Json} (h : ofBytes .standard b = .ok v) :
    v.Admissible := by
  unfold ofBytes at h
  split at h
  · exact read_admissible h
  · cases h

end Json

end BucketMap
