import MqttFailure.Json.Document
set_option autoImplicit false

namespace MqttFailure.Json

def Blank (cs : List Char) : Prop := ∀ c ∈ cs, isBlank c = true

inductive Piece where
  | char (c : Char)
  | unit (value : Nat)
  deriving DecidableEq

inductive Piece.Written : Piece → List Char → Prop where
  | plain {c : Char} (quote : c ≠ '"') (backslash : c ≠ '\\') (printable : 0x20 ≤ c.toNat) :
      Written (.char c) [c]
  | short {letter c : Char} (known : shortEscape? letter = some c) :
      Written (.char c) ['\\', letter]
  | quad {a b c d : Char} {value : Nat} (digits : hexQuad? a b c d = some value) :
      Written (.unit value) ['\\', 'u', a, b, c, d]

def Piece.anyChar : Piece → Char
  | .char c => c
  | .unit value => Char.ofNat value

inductive Spelled : List Piece → List Char → Prop where
  | nil : Spelled [] []
  | cons {piece : Piece} {pieces : List Piece} {w ws : List Char} :
      piece.Written w → Spelled pieces ws → Spelled (piece :: pieces) (w ++ ws)

inductive Quoted : List Piece → List Char → Prop where
  | mk {pieces : List Piece} {body : List Char} :
      Spelled pieces body → Quoted pieces ('"' :: (body ++ ['"']))

-- The characters that pieces stand for: a leading surrogate needs a trailing
-- one behind it, and neither stands alone.
def chars? : List Piece → Option (List Char)
  | [] => some []
  | .char c :: rest => (chars? rest).map (c :: ·)
  | .unit first :: rest =>
    if isTrailing first then none
    else if isLeading first then
      match rest with
      | .unit second :: rest =>
        if isTrailing second then (chars? rest).map (pairedChar first second :: ·) else none
      | _ => none
    else (chars? rest).map (Char.ofNat first :: ·)

def surrogateFault : List Piece → SyntaxFault
  | [] => .loneSurrogate
  | .char _ :: rest => surrogateFault rest
  | .unit first :: rest =>
    if isTrailing first then .loneSurrogate
    else if isLeading first then
      match rest with
      | .unit second :: rest => if isTrailing second then surrogateFault rest else .loneSurrogate
      | _ => .missingSurrogate
    else surrogateFault rest

def Digits (ds : List Char) : Prop := ds ≠ [] ∧ ∀ c ∈ ds, c.isDigit = true

inductive Numeral.Fraction : List Char → List Char → Prop where
  | absent : Fraction [] []
  | present {ds : List Char} : Digits ds → Fraction ds ('.' :: ds)

inductive Numeral.Exponent : Option (Bool × List Char) → List Char → Prop where
  | absent : Exponent none []
  | present {mark : Char} {sign : Option Char} {ds : List Char} :
      mark ∈ ['e', 'E'] → (∀ c ∈ sign, c ∈ ['+', '-']) → Digits ds →
      Exponent (some (sign = some '-', ds)) (mark :: (sign.toList ++ ds))

inductive Numeral.Written : Numeral → List Char → Prop where
  | mk {minus : Option Char} {whole fraction : List Char} {exponent : Option (Bool × List Char)}
      {w w' : List Char} :
      (∀ c ∈ minus, c ∈ ['-']) → Digits whole → (whole.head? = some '0' → whole.length ≤ 1) →
      Fraction fraction w → Exponent exponent w' →
      Written ⟨minus.isSome, whole, fraction, exponent⟩ (minus.toList ++ (whole ++ (w ++ w')))

inductive Separated {α : Type} (written : α → List Char → Prop) : List α → List Char → Prop where
  | last {a : α} {before w after : List Char} :
      Blank before → written a w → Blank after → Separated written [a] (before ++ (w ++ after))
  | cons {a : α} {as : List α} {before w after ws : List Char} :
      Blank before → written a w → Blank after → Separated written as ws →
      Separated written (a :: as) (before ++ (w ++ (after ++ ',' :: ws)))

inductive Listed {α : Type} (written : α → List Char → Prop) : List α → List Char → Prop where
  | empty {w : List Char} : Blank w → Listed written [] w
  | items {as : List α} {w : List Char} : Separated written as w → Listed written as w

inductive Keyed {α : Type} (written : α → List Char → Prop) :
    List Piece × α → List Char → Prop where
  | mk {key : List Piece} {a : α} {name before after w : List Char} :
      Quoted key name → Blank before → Blank after → written a w →
      Keyed written (key, a) (name ++ (before ++ ':' :: (after ++ w)))

inductive Source where
  | null
  | bool (value : Bool)
  | numeral (parts : Numeral)
  | text (pieces : List Piece)
  | array (elements : List Source)
  | object (members : List (List Piece × Source))

namespace Source

inductive Written : Source → List Char → Prop where
  | null : Written .null ['n', 'u', 'l', 'l']
  | true : Written (.bool true) ['t', 'r', 'u', 'e']
  | false : Written (.bool false) ['f', 'a', 'l', 's', 'e']
  | numeral {parts : Numeral} {w : List Char} : parts.Written w → Written (.numeral parts) w
  | text {pieces : List Piece} {w : List Char} : Quoted pieces w → Written (.text pieces) w
  | array {elements : List Source} {w : List Char} :
      Listed (fun e w => Written e w) elements w → Written (.array elements) ('[' :: (w ++ [']']))
  | object {members : List (List Piece × Source)} {w : List Char} :
      Listed (fun m w => Keyed (fun e w => Written e w) m w) members w →
      Written (.object members) ('{' :: (w ++ ['}']))

inductive Fills : Source → List Char → Prop where
  | mk {source : Source} {before w after : List Char} :
      Blank before → Written source w → Blank after → Fills source (before ++ (w ++ after))

mutual
def depth : Source → Nat
  | .array elements => elementsDepth elements + 1
  | .object members => membersDepth members + 1
  | _ => 0
def elementsDepth : List Source → Nat
  | [] => 0
  | e :: rest => max e.depth (elementsDepth rest)
def membersDepth : List (List Piece × Source) → Nat
  | [] => 0
  | (_, v) :: rest => max v.depth (membersDepth rest)
end

end Source

structure Sense where
  chars : List Piece → Option (List Char)
  number : Numeral → Option Number

namespace Sense

def exact : Sense := ⟨chars?, Numeral.number?⟩

def loose : Sense := ⟨fun pieces => some (pieces.map Piece.anyChar), fun _ => some (.integer 0)⟩

def text (sense : Sense) (pieces : List Piece) : Option String :=
  (sense.chars pieces).map String.ofList

end Sense

namespace Source

mutual
def json? (sense : Sense) : Source → Option Json
  | .null => some .null
  | .bool value => some (.bool value)
  | .numeral parts => (sense.number parts).map .number
  | .text pieces => (sense.text pieces).map .text
  | .array elements => (elements? sense elements).map .array
  | .object members => (members? sense members).map .object
def elements? (sense : Sense) : List Source → Option (List Json)
  | [] => some []
  | e :: rest => do return (← json? sense e) :: (← elements? sense rest)
def members? (sense : Sense) : List (List Piece × Source) → Option (List (String × Json))
  | [] => some []
  | (key, v) :: rest => do
      return (← sense.text key, ← json? sense v) :: (← members? sense rest)
end

end Source

end MqttFailure.Json
