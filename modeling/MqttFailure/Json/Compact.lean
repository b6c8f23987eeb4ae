import MqttFailure.Json.Value
set_option autoImplicit false

namespace MqttFailure.Json

def hexDigit (n : Nat) : Char := Nat.digitChar n

def escapedChar (c : Char) : List Char :=
  if c = '"' then ['\\', '"']
  else if c = '\\' then ['\\', '\\']
  else if c = '\x08' then ['\\', 'b']
  else if c = '\x0c' then ['\\', 'f']
  else if c = '\n' then ['\\', 'n']
  else if c = '\r' then ['\\', 'r']
  else if c = '\t' then ['\\', 't']
  else if c.toNat < 0x20 then
    ['\\', 'u', '0', '0', hexDigit (c.toNat / 16), hexDigit (c.toNat % 16)]
  else [c]

def string (s : String) : List Char :=
  '"' :: (s.toList.flatMap escapedChar ++ ['"'])

mutual
def compactChars : Json → List Char
  | .null => ['n', 'u', 'l', 'l']
  | .bool true => ['t', 'r', 'u', 'e']
  | .bool false => ['f', 'a', 'l', 's', 'e']
  | .number value => value.text.toList
  | .text value => string value
  | .array elements => '[' :: (compactElements elements ++ [']'])
  | .object members => '{' :: (compactMembers members ++ ['}'])

def compactElements : List Json → List Char
  | [] => []
  | [last] => compactChars last
  | first :: rest => compactChars first ++ ',' :: compactElements rest

def compactMembers : List (String × Json) → List Char
  | [] => []
  | [(key, value)] => string key ++ ':' :: compactChars value
  | (key, value) :: rest => string key ++ ':' :: (compactChars value ++ ',' :: compactMembers rest)
end

def compact (value : Json) : String := String.ofList (compactChars value)

end MqttFailure.Json
