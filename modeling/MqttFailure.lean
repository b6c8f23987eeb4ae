import MqttFailure.Event.Filter
import MqttFailure.Session
import MqttFailure.Wire.Tree
import MqttFailure.Proofs.Broker.Script
import MqttFailure.Proofs.Broker.Subscription
import MqttFailure.Proofs.Coherence
import MqttFailure.Proofs.Connection.Conversion
import MqttFailure.Proofs.Decimal.Rounding
import MqttFailure.Proofs.Json.Brackets
import MqttFailure.Proofs.Json.Compact
import MqttFailure.Proofs.Json.CutItems
import MqttFailure.Proofs.Json.Cuts
import MqttFailure.Proofs.Json.Grammar
import MqttFailure.Proofs.Json.Heads
import MqttFailure.Proofs.Json.Magnitudes
import MqttFailure.Proofs.Json.OnePass
import MqttFailure.Proofs.Json.OnePassScalars
import MqttFailure.Proofs.Json.OnePassValues
import MqttFailure.Proofs.Json.Parts
import MqttFailure.Proofs.Json.Running
import MqttFailure.Proofs.Json.Spelling
import MqttFailure.Proofs.Json.Texts
import MqttFailure.Proofs.Json.Verdicts
import MqttFailure.Proofs.Routing.ContentBlind
import MqttFailure.Proofs.Routing.FirstFailure
import MqttFailure.Proofs.Routing.History
import MqttFailure.Proofs.Wire.Acceptance
import MqttFailure.Proofs.Wire.Agreement
import MqttFailure.Proofs.Wire.Codes
import MqttFailure.Proofs.Wire.Finality
import MqttFailure.Proofs.Wire.KindNames
import MqttFailure.Proofs.Wire.Names
import MqttFailure.Proofs.Wire.Precedence
import MqttFailure.Proofs.Wire.RecordAcceptance
import MqttFailure.Proofs.Wire.Records
import MqttFailure.Proofs.Wire.RoundTrip
import MqttFailure.Proofs.Wire.Truncation
import MqttFailure.Proofs.Wire.Lists
import MqttFailure.Proofs.Wire.Forms
import MqttFailure.Proofs.Display
import MqttFailure.Proofs.Diagnostics
import MqttFailure.Proofs.Lifting
