set_option autoImplicit false

namespace MqttFailure

-- How a variant is named on the wire: in small letters, with an underscore in
-- front of each capital letter but the first.
def snakeCase (variant : String) : String :=
  match variant.toList with
  | [] => ""
  | first :: rest => String.ofList (first.toLower :: rest.flatMap fun c =>
      if c.isUpper then ['_', c.toLower] else [c.toLower])

inductive Kind where
  | protocol
  | control
  | transport
  | configuration
  | other
  deriving DecidableEq, Repr

namespace Kind

def all : List Kind := [.protocol, .control, .transport, .configuration, .other]

def name : Kind → String
  | .protocol => "protocol"
  | .control => "control"
  | .transport => "transport"
  | .configuration => "configuration"
  | .other => "other"

def title : Kind → String
  | .protocol => "Protocol"
  | .control => "Control"
  | .transport => "Transport"
  | .configuration => "Configuration"
  | .other => "Other"

def wireName (k : Kind) : String := snakeCase k.title

theorem mem_all (k : Kind) : k ∈ all := by
  cases k <;> simp [all]

theorem name_apart {k k' : Kind} (same : k.name = k'.name) : k = k' := by
  cases k <;> cases k' <;> first | rfl | exact absurd same (by decide)

theorem wire_name : wireName = name := by
  funext k
  cases k <;> decide

def distinctNames (kinds : List Kind) : List String :=
  ((all.filter (· ∈ kinds)).map name).mergeSort (· ≤ ·)

end Kind

end MqttFailure
