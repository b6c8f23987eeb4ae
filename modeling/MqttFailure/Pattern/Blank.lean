import MqttFailure.Text.Whitespace
set_option autoImplicit false

namespace MqttFailure.Pattern

open Text (isWhitespace)

def dropBlanks (inComment : Bool) : List Char → List Char
  | [] => []
  | c :: rest =>
    if inComment then dropBlanks (c ≠ '\n') rest
    else if isWhitespace c then dropBlanks false rest
    else if c = '#' then dropBlanks true rest
    else c :: rest

def skipBlanks (spaced : Bool) (cs : List Char) : List Char :=
  if spaced then dropBlanks false cs else cs

def peek (spaced : Bool) (cs : List Char) : Option Char :=
  if spaced then
    match cs.dropWhile isWhitespace with
    | '#' :: rest => (rest.dropWhile isWhitespace).head?
    | rest => rest.head?
  else cs.head?

end MqttFailure.Pattern
