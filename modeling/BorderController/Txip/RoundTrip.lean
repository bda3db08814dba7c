import BorderController.Txip.Wire

/-
  Envelopes are read back from their texts, whatever payload
  they carry, unless its JSON value is nested too deeply.

  Key definitions include:
    * `Payload.Canonical`, `Payload.FloatFree`
    * `Payload.nesting`

  Key theorems include:
    * `Payload.deserialize_serialize`
    * `TxipEnvelope.deserialize_serialize`
    * `TxipEnvelope.fromText_toText`
-/

------------------------------------------------------------
-- Fields
------------------------------------------------------------

namespace BorderController

namespace Txip

open Serde

variable {F : Type}

instance : UnitEnum.Lawful Direction where
  ofName_name a := by cases a <;> rfl

instance : UnitEnum.Lawful Role where
  ofName_name a := by cases a <;> rfl

instance : UnitEnum.Lawful MessageType where
  ofName_name a := by cases a <;> rfl

instance : UnitEnum.Lawful TgpPhase where
  ofName_name a := by cases a <;> rfl

instance : UnitEnum.Lawful AuthScheme where
  ofName_name a := by cases a <;> rfl

instance : UnitEnum.Lawful CloseReason where
  ofName_name a := by cases a <;> rfl

instance : UnitEnum.Lawful ErrorCode where
  ofName_name a := by cases a <;> rfl

instance : Record.Lawful F Features where
  nodup a := by simp [Record.fields]
  restores hReorders a := by
    simp [Record.ofFields, Record.fields, hReorders]
    rfl
  plain a := by simp [Record.fields, Lawful.plain]

instance : Record.Lawful F AuthInfo where
  nodup a := by simp [Record.fields]
  restores hReorders a := by
    simp [Record.ofFields, Record.fields, hReorders]
    rfl
  plain a := by simp [Record.fields, Lawful.plain]

instance : Record.Lawful F HelloPayload where
  nodup a := by simp [Record.fields]
  restores hReorders a := by
    simp [Record.ofFields, Record.fields, hReorders]
    rfl
  plain a := by simp [Record.fields, Lawful.plain]

instance : Record.Lawful F WelcomePayload where
  nodup a := by simp [Record.fields]
  restores hReorders a := by
    simp [Record.ofFields, Record.fields, hReorders]
    rfl
  plain a := by simp [Record.fields, Lawful.plain]

instance : Record.Lawful F HeartbeatPayload where
  nodup a := by simp [Record.fields]
  restores hReorders a := by
    simp [Record.ofFields, Record.fields, hReorders]
  plain a := by simp [Record.fields, Lawful.plain]

instance : Record.Lawful F ClosePayload where
  nodup a := by simp [Record.fields]
  restores hReorders a := by
    simp [Record.ofFields, Record.fields, hReorders]
  plain a := by simp [Record.fields, Lawful.plain]

instance : Record.Lawful F ErrorPayload where
  nodup a := by simp [Record.fields]
  restores hReorders a := by
    simp [Record.ofFields, Record.fields, hReorders]
    rfl
  plain a := by simp [Record.fields, Lawful.plain]

end Txip

end BorderController

------------------------------------------------------------
-- Payloads
------------------------------------------------------------

namespace BorderController

namespace Txip

open Serde

/- The value of a TGP payload is what its type guarantees. -/
def Payload.Canonical (payload : Payload) : Prop :=
  ∀ tgp, payload = .tgp tgp → tgp.tgp.Canonical

/- The value of a TGP payload has no floats. -/
def Payload.FloatFree (payload : Payload) : Prop :=
  ∀ tgp, payload = .tgp tgp → tgp.tgp.FloatFree

theorem ControlPayload.deserialize_serialize
    {F : Type}
    {f : Json F → Json F}
    (hReorders : Json.Reorders f)
    (payload : ControlPayload) :
    deserialize (f payload.serialize) = .ok payload := by
  cases payload with
  | hello payload | welcome payload | heartbeat payload
  | close payload =>
      exact deserializeTagged_serializeTagged hReorders payload
        (by simp [Record.fields]) fun _ => rfl

theorem ControlPayload.plain_serialize
    {F : Type}
    (payload : ControlPayload) :
    (payload.serialize : Json F).Plain := by
  cases payload with
  | hello payload | welcome payload | heartbeat payload
  | close payload =>
      exact plain_serializeTagged _ _ payload

theorem TgpPayload.deserialize_serialize
    {payload : TgpPayload}
    (hCanonical : payload.tgp.Canonical) :
    deserialize (serialize payload : Json UInt64) =
      .ok payload := by
  have hTgp :
      deserialize (id (serialize payload.tgp : Json UInt64)) =
        .ok payload.tgp :=
    congrArg Except.ok (Value.ofJson_toJson hCanonical)
  have hNodup :
      ((Record.fields (F := UInt64) payload).map
        Prod.fst).Nodup :=
    List.nodup_singleton _
  rw [Record.deserialize_serialize hNodup]
  simp [Record.ofFields, Record.fields,
    required_of_restores hTgp]

/- Only a value's own variant reads it. -/
theorem Payload.deserialize_serialize
    {payload : Payload}
    (hCanonical : payload.Canonical) :
    deserialize payload.serialize = .ok payload := by
  cases payload with
  | control control =>
      have hControl :
          ControlPayload.deserialize control.serialize =
            .ok control :=
        ControlPayload.deserialize_serialize
          (Json.reorders_id (F := UInt64)) control
      refine deserializeUntagged_of_ok ?_
      exact congrArg (Except.map Payload.control) hControl
  | tgp tgp =>
      have hControl :
          ControlPayload.deserialize
              (Serde.serialize tgp : Json UInt64) =
            .error (.missingField "control_type") :=
        deserializeTagged_record (by simp [Record.fields]) _
      have hTgp :=
        TgpPayload.deserialize_serialize (hCanonical tgp rfl)
      refine (deserializeUntagged_of_error
        (congrArg (Except.map Payload.control) hControl)).trans
          ?_
      refine deserializeUntagged_of_ok ?_
      exact congrArg (Except.map Payload.tgp) hTgp
  | error error =>
      have hControl :
          ControlPayload.deserialize
              (Serde.serialize error : Json UInt64) =
            .error (.missingField "control_type") :=
        deserializeTagged_record (by simp [Record.fields]) _
      have hNodup :=
        Record.Lawful.nodup (F := UInt64) error
      have hTgp :
          (Serde.deserialize
              (Serde.serialize error : Json UInt64) :
            Except Error TgpPayload) =
            .error (.missingField "tgp") := by
        rw [Record.deserialize_serialize hNodup]
        simp [Record.ofFields, Record.fields]
      have hError :=
        Serde.Lawful.restores (Json.reorders_id (F := UInt64))
          error
      refine (deserializeUntagged_of_error
        (congrArg (Except.map Payload.control) hControl)).trans
          ?_
      refine (deserializeUntagged_of_error
        (congrArg (Except.map Payload.tgp) hTgp)).trans ?_
      refine deserializeUntagged_of_ok ?_
      exact congrArg (Except.map Payload.error) hError

end Txip

end BorderController

------------------------------------------------------------
-- Depth
------------------------------------------------------------

namespace BorderController

namespace Txip

open Serde

/- Only the value of a TGP payload is nested without bound. -/
def Payload.nesting : Payload → Nat
  | .tgp payload => payload.tgp.depth
  | _ => 0

theorem ControlPayload.depth_serialize
    {F : Type}
    (payload : ControlPayload) :
    (payload.serialize : Json F).depth ≤ 3 := by
  cases payload with
  | hello payload =>
      have hVersions :=
        depth_list_le (F := F) payload.supportedTgpVersions
      have hTransports :=
        depth_list_le (F := F) payload.supportedTransports
      have hChains :=
        depth_list_le (F := F) payload.supportedChains
      have hAssets :=
        depth_list_le (F := F) payload.supportedAssets
      simp [serialize, Record.fields]
      omega
  | welcome payload =>
      have hChains :=
        depth_list_le (F := F) payload.negotiatedChains
      simp [serialize, Record.fields]
      omega
  | heartbeat payload => simp [serialize, Record.fields]
  | close payload => simp [serialize, Record.fields]

theorem Payload.depth_serialize_le_iff
    (payload : Payload) :
    payload.serialize.depth ≤ 126 ↔
      payload.nesting ≤ 125 := by
  cases payload with
  | control payload =>
      have hShallow :=
        ControlPayload.depth_serialize (F := UInt64) payload
      change payload.serialize.depth ≤ 126 ↔ 0 ≤ 125
      omega
  | tgp payload =>
      change (Serde.serialize payload : Json UInt64).depth ≤
        126 ↔ payload.tgp.toJson.depth ≤ 125
      have hDepth :
          (Serde.serialize payload : Json UInt64).depth =
            max payload.tgp.toJson.depth 0 + 1 := rfl
      omega
  | error payload =>
      change (Serde.serialize payload : Json UInt64).depth ≤
        126 ↔ 0 ≤ 125
      simp [Record.fields]

theorem TxipEnvelope.depth_serialize
    (envelope : TxipEnvelope) :
    (serialize envelope : Json UInt64).depth =
      envelope.payload.serialize.depth + 1 := by
  have hPayload :
      (serialize envelope.payload : Json UInt64) =
        envelope.payload.serialize := rfl
  simp [Record.fields, hPayload]

end Txip

end BorderController

------------------------------------------------------------
-- Envelopes
------------------------------------------------------------

namespace BorderController

namespace Txip

open Serde

namespace Payload

theorem plain_serialize
    {payload : Payload}
    (hFloatFree : payload.FloatFree) :
    payload.serialize.Plain := by
  cases payload with
  | control payload =>
      exact ControlPayload.plain_serialize payload
  | tgp payload =>
      have hPlain := Value.plain_toJson (hFloatFree payload rfl)
      refine .object ?_
      intro entry hEntry
      rw [List.mem_singleton.mp hEntry]
      exact hPlain
  | error payload => exact Serde.Lawful.plain payload

end Payload

namespace TxipEnvelope

theorem deserialize_serialize
    {envelope : TxipEnvelope}
    (hCanonical : envelope.payload.Canonical) :
    deserialize (serialize envelope : Json UInt64) =
      .ok envelope := by
  have hPayload :
      deserialize
          (id (serialize envelope.payload : Json UInt64)) =
        .ok envelope.payload :=
    Payload.deserialize_serialize hCanonical
  have hReorders := Json.reorders_id (F := UInt64)
  have hNodup :
      ((Record.fields (F := UInt64) envelope).map
        Prod.fst).Nodup := by
    simp [Record.fields]
  rw [Record.deserialize_serialize hNodup]
  simp [Record.ofFields, Record.fields, hReorders,
    required_of_restores hPayload]
  rfl

theorem plain_serialize
    {envelope : TxipEnvelope}
    (hFloatFree : envelope.payload.FloatFree) :
    (serialize envelope : Json UInt64).Plain := by
  have hPayload :
      (serialize envelope.payload : Json UInt64).Plain :=
    Payload.plain_serialize hFloatFree
  refine .object (plain_present ?_)
  simp [Record.fields, Lawful.plain, hPayload]

/-
  An envelope without floats is read back from its text, or
  the text is refused because the value is nested too deeply.
-/
theorem fromText_toText
    (library : JsonLibrary)
    {envelope : TxipEnvelope}
    (hCanonical : envelope.payload.Canonical)
    (hFloatFree : envelope.payload.FloatFree) :
    fromText library (envelope.toText library) =
      if envelope.payload.nesting ≤ 125 then
        .ok envelope
      else
        .error (.text .recursionLimitExceeded) := by
  have hDepth :
      (serialize envelope : Json UInt64).depth ≤ 127 ↔
        envelope.payload.nesting ≤ 125 := by
    rw [depth_serialize, ← Payload.depth_serialize_le_iff]
    omega
  unfold fromText toText
  rw [library.read_write (plain_serialize hFloatFree)]
  by_cases hNested : envelope.payload.nesting ≤ 125
  · rw [if_pos (hDepth.mpr hNested), if_pos hNested]
    simp only [deserialize_serialize hCanonical]
    rfl
  · rw [if_neg (mt hDepth.mp hNested), if_neg hNested]

end TxipEnvelope

end Txip

end BorderController
