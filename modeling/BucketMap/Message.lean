import BucketMap.Json.Display

/-!
# Messages

A message is a list of pieces: fixed words, texts, integers and values. `Message.render` writes it
and fails if an integer in it is too long to be written. Counts of what is held, and places in it,
never are.
-/

namespace BucketMap

/-- A part of a message. -/
inductive Piece
  | words (s : String)
  | text (t : Text)
  /-- A text between quotation marks. -/
  | quoted (t : Text)
  | int (n : Int)
  | count (n : Nat)
  /-- A value as it is shown on its own. -/
  | display (v : Json)
  /-- A value as it is shown inside others. -/
  | shown (v : Json)

/-- The parts of a message in order. -/
abbrev Message := List Piece

instance : Coe String Piece := ⟨.words⟩
instance : Coe Text Piece := ⟨.text⟩
instance : Coe Int Piece := ⟨.int⟩
instance : Coe Nat Piece := ⟨.count⟩

/-- The text of a piece. -/
def Piece.render : Piece → Except NumeralTooLong Text
  | words s => .ok (Text.ofString s)
  | text t => .ok t
  | quoted t => .ok t.quoted
  | int n => Numeral.write n
  | count n => .ok (Numeral.natural n)
  | display v => v.display
  | shown v => v.shown

/-- The text of a message. -/
def Message.render : Message → Except NumeralTooLong Text
  | [] => .ok []
  | piece :: pieces => do
    let first ← piece.render
    let others ← Message.render pieces
    return first ++ others

end BucketMap
