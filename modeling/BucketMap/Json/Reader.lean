import BucketMap.Encoding.Detect
import BucketMap.Json.Token

/-!
# Reading JSON

* `Json.ofText` reads a text and `Json.ofBytes` bytes in any of the encoding forms.
* The reader goes through the tokens with a stack of the arrays and objects that are still open.
  The first token that does not fit is the place of the complaint.
-/

namespace BucketMap

namespace Json

/-- What the reader accepts: without a bound, everything. -/
structure Limits where
  maxDigits : Option Nat
  maxDepth : Option Nat

/-- The limits for documents that come from outside. -/
def Limits.standard : Limits := ⟨some Numeral.maxDigits, some 990⟩

/-- No limits. -/
def Limits.none : Limits := ⟨Option.none, Option.none⟩

/-- An array or object that is still open. -/
inductive Frame
  /-- The items so far, the last one first. -/
  | arr (items : List Json)
  /-- The fields so far and the key whose value is being read. -/
  | obj (fields : List (Text × Json)) (key : Text)

/-- What may come next. -/
inductive Stage
  /-- A value. -/
  | value (stack : List Frame)
  /-- The first item of an array or its end. -/
  | firstItem (stack : List Frame)
  /-- The first key of an object or its end. -/
  | firstKey (stack : List Frame)
  /-- A further key of an object. -/
  | nextKey (fields : List (Text × Json)) (stack : List Frame)
  /-- The colon behind a key. -/
  | colon (fields : List (Text × Json)) (key : Text) (stack : List Frame)
  /-- A comma or the end of an array. -/
  | afterItem (items : List Json) (stack : List Frame)
  /-- A comma or the end of an object. -/
  | afterField (fields : List (Text × Json)) (stack : List Frame)
  /-- The end of the text. -/
  | whole (value : Json)

/-- The stage behind a complete value. -/
def Stage.after (value : Json) : List Frame → Stage
  | [] => .whole value
  | .arr items :: stack => .afterItem (value :: items) stack
  | .obj fields k :: stack => .afterField (setField k value fields) stack

/-- What a token may be refused for: a complaint and its position, or another fault. -/
inductive Refusal
  | complaint (what : Complaint) (position : Nat)
  | tooManyDigits (count : Nat)
  | tooDeep (container : Kind)

/-- One more array or object may be opened inside those on the stack. -/
def Limits.allows (limits : Limits) (stack : List Frame) : Bool :=
  match limits.maxDepth with
  | some depth => stack.length < depth
  | Option.none => true

/-- The stage behind a token where a value is expected. -/
def Stage.readValue (limits : Limits) (stack : List Frame) (token : Token) :
    Except Refusal Stage :=
  match token.symbol with
  | .scalar v => .ok (.after v stack)
  | .string t => .ok (.after (.str t) stack)
  | .openArray => if limits.allows stack then .ok (.firstItem stack) else .error (.tooDeep .arr)
  | .openObject => if limits.allows stack then .ok (.firstKey stack) else .error (.tooDeep .obj)
  | .broken complaint position => .error (.complaint complaint position)
  | .tooLong count => .error (.tooManyDigits count)
  | _ => .error (.complaint .value token.start)

/-- The stage behind a token where a key is expected. -/
def Stage.readKey (fields : List (Text × Json)) (stack : List Frame) (token : Token) :
    Except Refusal Stage :=
  match token.symbol with
  | .string key => .ok (.colon fields key stack)
  | .broken .value _ => .error (.complaint .propertyName token.start)
  | .broken complaint position => .error (.complaint complaint position)
  | _ => .error (.complaint .propertyName token.start)

/-- The stage behind a token. -/
def Stage.step (limits : Limits) (token : Token) : Stage → Except Refusal Stage
  | value stack => readValue limits stack token
  | firstItem stack =>
    match token.symbol with
    | .closeArray => .ok (.after (.arr []) stack)
    | _ => readValue limits (.arr [] :: stack) token
  | firstKey stack =>
    match token.symbol with
    | .closeObject => .ok (.after (.obj []) stack)
    | _ => readKey [] stack token
  | nextKey fields stack => readKey fields stack token
  | colon fields key stack =>
    match token.symbol with
    | .colon => .ok (.value (.obj fields key :: stack))
    | _ => .error (.complaint .colon token.start)
  | afterItem items stack =>
    match token.symbol with
    | .closeArray => .ok (.after (.arr items.reverse) stack)
    | .comma => .ok (.value (.arr items :: stack))
    | _ => .error (.complaint .comma token.start)
  | afterField fields stack =>
    match token.symbol with
    | .closeObject => .ok (.after (.obj fields) stack)
    | .comma => .ok (.nextKey fields stack)
    | _ => .error (.complaint .comma token.start)
  | whole _ => .error (.complaint .extraData token.start)

/-- The value that the tokens describe. -/
def readTokens (limits : Limits) : Stage → List Token → Except Refusal Json
  | _, [] => .error (.complaint .value 0)
  | stage, token :: tokens =>
    match stage, token.symbol with
    | .whole v, .finish => .ok v
    | stage, _ => do readTokens limits (← stage.step limits token) tokens

/-- The value that a text describes. -/
def read (limits : Limits) (t : Text) : Except Fault Json :=
  match readTokens limits (.value []) (Token.list limits.maxDigits t) with
  | .ok v => .ok v
  | .error (.complaint what position) => .error (.syntaxFault what (placeOf t position))
  | .error (.tooManyDigits count) => .error (.tooManyDigits count)
  | .error (.tooDeep container) => .error (.tooDeep container)

/-- The value that a text describes; a byte order mark at its start is refused. -/
def ofText (limits : Limits) (t : Text) : Except Fault Json :=
  if t.head? = some (CodePoint.ofNat 0xFEFF) then
    .error (.syntaxFault .byteOrderMark (placeOf t 0))
  else read limits t

/-- The value that bytes describe. -/
def ofBytes (limits : Limits) (bytes : Bytes) : Except Fault Json :=
  match Encoding.decodeAny bytes with
  | .ok t => read limits t
  | .error fault => .error (.undecodable fault)

end Json

end BucketMap
