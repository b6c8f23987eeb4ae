import MqttFailure.AnyFailure
set_option autoImplicit false

namespace MqttFailure

structure Shelf where
  entries : List (String × AnyFailure)
  deriving DecidableEq

namespace Shelf

def empty : Shelf := ⟨[]⟩

def get? (s : Shelf) (name : String) : Option AnyFailure := s.entries.lookup name

def insertEntry (name : String) (f : AnyFailure) :
    List (String × AnyFailure) → List (String × AnyFailure)
  | [] => [(name, f)]
  | (other, g) :: rest =>
    if name < other then (name, f) :: (other, g) :: rest
    else if name = other then (name, f) :: rest
    else (other, g) :: insertEntry name f rest

def insert (s : Shelf) (name : String) (f : AnyFailure) : Shelf := ⟨insertEntry name f s.entries⟩

def erase (s : Shelf) (name : String) : Shelf := ⟨s.entries.filter (·.1 ≠ name)⟩

end Shelf

end MqttFailure
