import MqttFailure.Text.Quoted
set_option autoImplicit false

namespace MqttFailure

structure Status where
  message : String
  code : Int32
  deriving DecidableEq

namespace Status

def text (s : Status) : String :=
  s.message ++ " (code " ++ toString s.code ++ ")"

def debugBy (hidden : Char → Bool) (title : String) (s : Status) : String :=
  title ++ " \x7b message: " ++ Text.quotedBy hidden s.message ++ ", code: " ++ toString s.code ++
    " \x7d"

end Status

end MqttFailure
