import MqttFailure.Chain.Caught
set_option autoImplicit false

namespace MqttFailure

namespace Connection

theorem ReturnCode.byte_of_refused {code : ReturnCode} (refused : code ≠ .success) :
    ∃ byte, ofByte? byte = some code ∧ 1 ≤ byte ∧ byte ≤ 5 := by
  cases code with
  | success => exact absurd rfl refused
  | refusedProtocolVersion => exact ⟨1, rfl, by decide, by decide⟩
  | badClientId => exact ⟨2, rfl, by decide, by decide⟩
  | serviceUnavailable => exact ⟨3, rfl, by decide, by decide⟩
  | badUserNamePassword => exact ⟨4, rfl, by decide, by decide⟩
  | notAuthorized => exact ⟨5, rfl, by decide, by decide⟩

namespace Fault

inductive OfSession : Fault → Prop where
  | refused (code : ReturnCode) : OfSession (.refused code)
  | state (inner : StateFault) : OfSession (.state inner)
  | notConnAck (packet : Packet) : OfSession (.notConnAck packet)

inductive OfNetwork : Fault → Prop where
  | io (inner : IoFault) : OfNetwork (.io inner)
  | networkTimeout : OfNetwork .networkTimeout
  | flushTimeout : OfNetwork .flushTimeout
  | tls (inner : TlsFault) : OfNetwork (.tls inner)

inductive Brings : Fault → Int32 → Prop where
  | refusal {code : ReturnCode} {byte : Nat} (known : ReturnCode.ofByte? byte = some code)
      (low : 1 ≤ byte) (high : byte ≤ 5) : Brings (.refused code) (Int32.ofNat byte)
  | osNumber {inner : IoFault} {number : Int32} (known : inner.osNumber? = some number) :
      Brings (.io inner) number

-- What a fault nests, as it is shown. A packet is shown in its diagnostic form, and so is an input
-- or output fault inside a state fault, by the text of the state fault; all else by its own text.
inductive Nests : Fault → String → Prop where
  | io (inner : IoFault) : Nests (.io inner) inner.text
  | tls (inner : TlsFault) : Nests (.tls inner) inner.text
  | tlsIo (inner : IoFault) : Nests (.tls (.io inner)) inner.text
  | state (inner : StateFault) : Nests (.state inner) inner.text
  | stateIo (inner : IoFault) : Nests (.state (.io inner)) inner.debug
  | packet (packet : Packet) : Nests (.notConnAck packet) packet.debug

inductive ToldAsIs : Fault → Prop where
  | networkTimeout : ToldAsIs .networkTimeout
  | flushTimeout : ToldAsIs .flushTimeout
  | tls (inner : TlsFault) : ToldAsIs (.tls inner)
  | requestsDone : ToldAsIs .requestsDone

def ioFault? : Fault → Option IoFault
  | .io inner => some inner
  | .state (.io inner) => some inner
  | .tls (.io inner) => some inner
  | _ => none

theorem kind_of_origin (c : Fault) :
    (c.OfSession ∧ c.toFailure.kind = .protocol) ∨ (c.OfNetwork ∧ c.toFailure.kind = .transport) ∨
      (c = .requestsDone ∧ c.toFailure.kind = .other) := by
  cases c with
  | refused code => exact .inl ⟨.refused code, rfl⟩
  | state inner => exact .inl ⟨.state inner, rfl⟩
  | notConnAck packet => exact .inl ⟨.notConnAck packet, rfl⟩
  | io inner => exact .inr (.inl ⟨.io inner, rfl⟩)
  | networkTimeout => exact .inr (.inl ⟨.networkTimeout, rfl⟩)
  | flushTimeout => exact .inr (.inl ⟨.flushTimeout, rfl⟩)
  | tls inner => exact .inr (.inl ⟨.tls inner, rfl⟩)
  | requestsDone => exact .inr (.inr ⟨rfl, rfl⟩)

theorem OfSession.not_network {c : Fault} (session : c.OfSession) : ¬ c.OfNetwork := by
  intro network
  cases session <;> cases network

theorem kind_iff_origin (c : Fault) :
    (c.toFailure.kind = .protocol ↔ c.OfSession) ∧
    (c.toFailure.kind = .transport ↔ c.OfNetwork) ∧
    (c.toFailure.kind = .other ↔ c = .requestsDone) ∧
    c.toFailure.kind ≠ .control ∧ c.toFailure.kind ≠ .configuration := by
  rcases c.kind_of_origin with ⟨session, kind⟩ | ⟨network, kind⟩ | ⟨rfl, kind⟩
  · have not_done : c ≠ .requestsDone := by
      rintro rfl
      cases session
    simp [kind, session, session.not_network, not_done]
  · have not_session : ¬ c.OfSession := fun session => session.not_network network
    have not_done : c ≠ .requestsDone := by
      rintro rfl
      cases network
    simp [kind, network, not_session, not_done]
  · have not_session : ¬ OfSession .requestsDone := nofun
    have not_network : ¬ OfNetwork .requestsDone := nofun
    simp [kind, not_session, not_network]

theorem code_brought {c : Fault} {number : Int32} (brings : c.Brings number) :
    c.toFailure.code = number := by
  cases brings with
  | @refusal code byte known low high =>
      unfold ReturnCode.ofByte? at known
      split at known <;> cases known
      · cases low
      all_goals rfl
  | osNumber known => simp [toFailure, ClientFailure.code, ClientFailure.status, known]

theorem code_default {c : Fault} (brings : ∀ number, ¬ c.Brings number) :
    c.toFailure.code = 0 := by
  cases c with
  | refused code =>
      by_cases success : code = .success
      · subst success
        rfl
      · obtain ⟨byte, known, low, high⟩ := ReturnCode.byte_of_refused success
        exact absurd (.refusal known low high) (brings _)
  | io inner =>
      cases known : inner.osNumber? with
      | none => simp [toFailure, ClientFailure.code, ClientFailure.status, known]
      | some number => exact absurd (.osNumber known) (brings number)
  | state inner => rfl
  | notConnAck packet => rfl
  | networkTimeout => rfl
  | flushTimeout => rfl
  | tls inner => rfl
  | requestsDone => rfl

theorem nested_told {c : Fault} {shown : String} (nests : c.Nests shown) :
    ∃ before after, c.toFailure.message = before ++ shown ++ after := by
  cases nests with
  | io inner => exact ⟨"", "", by simp [toFailure, ClientFailure.message, ClientFailure.status]⟩
  | tls inner => exact ⟨"TLS: ", "", String.append_empty.symm⟩
  | tlsIo inner =>
      refine ⟨"TLS: I/O: ", "", ?_⟩
      rw [String.append_empty]
      exact String.append_assoc.symm
  | state inner => exact ⟨"MQTT state error: ", "", String.append_empty.symm⟩
  | stateIo inner =>
      refine ⟨"MQTT state error: Io error: ", "", ?_⟩
      rw [String.append_empty]
      exact String.append_assoc.symm
  | packet packet => exact ⟨"expected CONNACK, received ", "", String.append_empty.symm⟩

theorem told_as_is {c : Fault} (told : c.ToldAsIs) : c.toFailure.message = c.text := by
  cases told <;> rfl

-- Of all that a connection fault shows, only what stands behind a nested input or
-- output fault can be a failure of the client.
theorem failure_behind (c : Fault) :
    (Raised.connection c).chain.failure? =
      c.ioFault?.bind fun inner => Chain.failure? inner.causes := by
  cases c with
  | io inner => rfl
  | state inner =>
      cases inner with
      | undecodable given => exact given.failure_behind
      | _ => rfl
  | tls inner =>
      cases inner with
      | io inner => rfl
      | other given => exact given.failure_behind
  | refused code => rfl
  | notConnAck packet => rfl
  | networkTimeout => rfl
  | flushTimeout => rfl
  | requestsDone => rfl

theorem kind_before {c : Fault} (alone : ∀ inner ∈ c.ioFault?, inner.causes = []) :
    (Raised.connection c).chain.kind? = none := by
  rw [Chain.kind?, failure_behind]
  cases nested : c.ioFault? with
  | none => rfl
  | some inner =>
      rw [Option.bind_some, alone inner nested]
      rfl

/-- A connection fault becomes a failure by its variant, with the number that comes with it as the
code and with what it nests in the message. -/
theorem converted_by_variant (c : Fault) :
    (c.toFailure.kind = .protocol ↔ c.OfSession) ∧
    (c.toFailure.kind = .transport ↔ c.OfNetwork) ∧
    (c.toFailure.kind = .other ↔ c = .requestsDone) ∧
    c.toFailure.kind ≠ .control ∧ c.toFailure.kind ≠ .configuration ∧
    (∀ number, c.Brings number → c.toFailure.code = number) ∧
    ((∀ number, ¬ c.Brings number) → c.toFailure.code = 0) ∧
    (∀ shown, c.Nests shown →
      ∃ before after, c.toFailure.message = before ++ shown ++ after) ∧
    (c.ToldAsIs → c.toFailure.message = c.text) ∧
    ((Raised.connection c).carry .lift).causes = [] ∧
    ((∀ inner ∈ c.ioFault?, inner.causes = []) → (Raised.connection c).chain.kind? = none) ∧
    ((Raised.connection c).carry .lift).chain.kind? = some c.toFailure.kind := by
  obtain ⟨protocol, transport, other, control, configuration⟩ := c.kind_iff_origin
  exact ⟨protocol, transport, other, control, configuration, fun _ => code_brought, code_default,
    fun _ => nested_told, told_as_is, rfl, kind_before, rfl⟩

theorem session_reset_converted :
    (state (.io (.os 104))).toFailure.kind = .protocol ∧
    (state (.io (.os 104))).toFailure.code = 0 ∧
    (∃ before after, (state (.io (.os 104))).toFailure.message =
      before ++ (StateFault.io (.os 104)).text ++ after) ∧
    (Raised.connection (.state (.io (.os 104)))).chain.kind? = none := by
  obtain ⟨protocol, _, _, _, _, _, default, told, _, _, before, _⟩ :=
    converted_by_variant (.state (.io (.os 104)))
  refine ⟨protocol.mpr (.state _), default nofun, told _ (.state _), before ?_⟩
  intro inner nested
  cases nested
  rfl

end Fault

end Connection

end MqttFailure
