import MqttFailure.Json.Document
import MqttFailure.Kind
set_option autoImplicit false

namespace MqttFailure

open Json (Reader ReadError Mismatch)
open Json.Reader

/-- Releases of the JSON reader differ in what `{1:null}` is as an enumeration: older ones find an
integer in the place of a name, newer ones a key that is no string, and so no JSON. -/
inductive Release where
  | older
  | newer
  deriving DecidableEq, Repr

namespace Kind

def lookup (table : Kind → String) (name : String) : Except Mismatch Kind :=
  match all.find? fun k => table k = name with
  | some k => .ok k
  | none => .error (.unknownName name (all.map table))

def ofShapeBy (table : Kind → String) : Json.Shape → Except Mismatch Kind
  | .text name => lookup table name
  | found => .error (.wrongType found "variant identifier")

def readNameBy (table : Kind → String) : Reader Kind := do
  let shape ← head .exact
  judge (ofShapeBy table shape)

def named : String → Except Mismatch Kind := lookup wireName

def ofShape : Json.Shape → Except Mismatch Kind := ofShapeBy wireName

def readName : Reader Kind := readNameBy wireName

def readKey : Release → Reader Kind
  | .older => readName
  | .newer => do
    let name ← key .exact
    judge (named name)

def readIn (release : Release) : Reader Kind := do
  skipBlanks
  let opening ← next .value
  if opening = '"' then
    let name ← stringBody exactEscape
    judge (named name)
  else if opening = '{' then
    let kind ← readKey release
    colon
    match ← head .exact with
    | .null =>
      skipBlanks
      literal .object .expectedValue ['}']
      return kind
    | found => refuse (.wrongType found "unit")
  else fail (.malformed .expectedValue)

def decodeIn (release : Release) (text : String) : Except ReadError Kind :=
  readAll (readIn release) text

def decode (text : String) : Except ReadError Kind := decodeIn .newer text

end Kind

end MqttFailure
