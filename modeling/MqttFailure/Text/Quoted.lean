import MqttFailure.Text.Unprintable
set_option autoImplicit false

namespace MqttFailure.Text

def codePoint (c : Char) : List Char :=
  '\\' :: 'u' :: '{' :: (Nat.toDigits 16 c.toNat ++ ['}'])

-- A character between quotes. The hidden characters are shown by their code point; which ones they
-- are depends on the edition of Unicode.
def quotedCharBy (hidden : Char → Bool) (c : Char) : List Char :=
  if c = '"' then ['\\', '"']
  else if c = '\\' then ['\\', '\\']
  else if c = '\n' then ['\\', 'n']
  else if c = '\r' then ['\\', 'r']
  else if c = '\t' then ['\\', 't']
  else if c = '\x00' then ['\\', '0']
  else if hidden c then codePoint c
  else [c]

def quotedBy (hidden : Char → Bool) (s : String) : String :=
  String.ofList ('"' :: (s.toList.flatMap (quotedCharBy hidden) ++ ['"']))

def quotedChar (c : Char) : List Char := quotedCharBy isUnprintable c

def quoted (s : String) : String := quotedBy isUnprintable s

def quotedByte (b : UInt8) : List Char :=
  let n := b.toNat
  if n = 0x22 then ['\\', '"']
  else if n = 0x5c then ['\\', '\\']
  else if n = 0x0a then ['\\', 'n']
  else if n = 0x0d then ['\\', 'r']
  else if n = 0x09 then ['\\', 't']
  else if n = 0 then ['\\', '0']
  else if 0x20 ≤ n && n ≤ 0x7e then [Char.ofNat n]
  else ['\\', 'x', Nat.digitChar (n / 16), Nat.digitChar (n % 16)]

def quotedBytes (bytes : List UInt8) : String :=
  String.ofList ('b' :: '"' :: (bytes.flatMap quotedByte ++ ['"']))

def bracketed (items : List String) : String :=
  "[" ++ ", ".intercalate items ++ "]"

def wrapped (title : String) (inner : String) : String := title ++ "(" ++ inner ++ ")"

def record (title : String) (fields : List (String × String)) : String :=
  title ++ " \x7b " ++ ", ".intercalate (fields.map fun (name, text) => name ++ ": " ++ text) ++
    " \x7d"

def optional : Option String → String
  | none => "None"
  | some text => wrapped "Some" text

end MqttFailure.Text
