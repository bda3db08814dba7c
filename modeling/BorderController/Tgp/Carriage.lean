import BorderController.Library.JsonRoundTrip
import BorderController.Tgp.Messages
import BorderController.Txip.RoundTrip

/-
  Messages carried in envelopes.

  A message becomes a JSON value, travels as the payload of an
  envelope, and is decoded on the other side.

  Key definitions include:
    * `compactTexts`
    * `nested`

  Key theorems include:
    * `TGPMessage.ofValue_toValue`
    * `wire_roundTrip`
-/

------------------------------------------------------------
-- Fields
------------------------------------------------------------

namespace BorderController

namespace Tgp

open Serde

variable {F : Type}

instance : UnitEnum.Lawful ZkProfile where
  ofName_name a := by cases a <;> rfl

instance : UnitEnum.Lawful SettleSource where
  ofName_name a := by cases a <;> rfl

instance : Record.Lawful F EconomicEnvelope where
  nodup a := by simp [Record.fields]
  restores hReorders a := by
    simp [Record.ofFields, Record.fields, hReorders]
    rfl
  plain a := by simp [Record.fields, Lawful.plain]

instance : Record.Lawful F QueryMessage where
  nodup a := by simp [Record.fields]
  restores hReorders a := by
    simp [Record.ofFields, Record.fields, hReorders]
    rfl
  plain a := by simp [Record.fields, Lawful.plain]

instance : Record.Lawful F OfferMessage where
  nodup a := by simp [Record.fields]
  restores hReorders a := by
    simp [Record.ofFields, Record.fields, hReorders]
    rfl
  plain a := by simp [Record.fields, Lawful.plain]

instance : Record.Lawful F SettleMessage where
  nodup a := by simp [Record.fields]
  restores hReorders a := by
    simp [Record.ofFields, Record.fields, hReorders]
    rfl
  plain a := by simp [Record.fields, Lawful.plain]

instance : Record.Lawful F ErrorMessage where
  nodup a := by simp [Record.fields]
  restores hReorders a := by
    simp [Record.ofFields, Record.fields, hReorders]
    rfl
  plain a := by simp [Record.fields, Lawful.plain]

end Tgp

end BorderController

------------------------------------------------------------
-- Messages
------------------------------------------------------------

namespace BorderController

namespace Tgp

open Serde

namespace TGPMessage

variable {F : Type}

theorem deserialize_serialize
    {f : Json F → Json F}
    (hReorders : Json.Reorders f)
    (message : TGPMessage) :
    deserialize (f message.serialize) = .ok message := by
  cases message with
  | query message | offer message | settle message
  | error message =>
      exact deserializeTagged_serializeTagged hReorders message
        (by simp [Record.fields]) fun _ => rfl

theorem plain_serialize
    (message : TGPMessage) :
    (message.serialize : Json F).Plain := by
  cases message with
  | query message | offer message | settle message
  | error message =>
      exact plain_serializeTagged _ _ message

theorem depth_serialize
    (message : TGPMessage) :
    (message.serialize : Json F).depth ≤ 2 := by
  cases message with
  | query message | offer message | settle message
  | error message =>
      simp [serialize, Record.fields]

/-
  The fields of a value are sorted, but a message is found by
  the names of its fields.
-/
theorem ofValue_toValue
    (message : TGPMessage) :
    ofValue message.toValue = .ok message :=
  deserialize_serialize Txip.Value.reorders_normal message

theorem canonical_toValue
    (message : TGPMessage) :
    message.toValue.Canonical :=
  Txip.Value.canonical_ofJson message.plain_serialize.inRange

theorem floatFree_toValue
    (message : TGPMessage) :
    message.toValue.FloatFree :=
  Txip.Value.floatFree_ofJson message.plain_serialize

theorem depth_toValue
    (message : TGPMessage) :
    message.toValue.depth ≤ 2 :=
  le_trans
    (Txip.Value.depth_ofJson_le message.plain_serialize.inRange)
    message.depth_serialize

end TGPMessage

end Tgp

end BorderController

------------------------------------------------------------
-- Round Trips
------------------------------------------------------------

namespace BorderController

namespace Tgp

open Txip

/-
  Envelopes without floats are read back as they were written
  if their value has at most 125 layers, and are refused
  otherwise; a message that is carried is always decoded.
-/
theorem wire_roundTrip
    (library : JsonLibrary) :
    (∀ envelope : TxipEnvelope,
      envelope.payload.Canonical →
        envelope.payload.FloatFree →
          TxipEnvelope.fromText library
              (envelope.toText library) =
            if envelope.payload.nesting ≤ 125 then
              .ok envelope
            else
              .error (.text .recursionLimitExceeded)) ∧
      ∀ (message : TGPMessage)
        (msgId sessionId : String)
        (direction : Direction)
        (role : Role)
        (tgpPhase : TgpPhase)
        (timestamp : TripleTimestamp),
        ∃ received payload,
          TxipEnvelope.fromText library
              ((TxipEnvelope.tgp msgId sessionId direction role
                tgpPhase timestamp message.toValue).toText
                  library) =
              .ok received ∧
            received.payload = .tgp payload ∧
            TGPMessage.ofValue payload.tgp =
              .ok message := by
  constructor
  · intro envelope hCanonical hFloatFree
    exact TxipEnvelope.fromText_toText library hCanonical
      hFloatFree
  · intro message msgId sessionId direction role tgpPhase
      timestamp
    let envelope :=
      TxipEnvelope.tgp msgId sessionId direction role tgpPhase
        timestamp message.toValue
    have hCanonical : envelope.payload.Canonical := by
      intro tgp hTgp
      cases hTgp
      exact message.canonical_toValue
    have hFloatFree : envelope.payload.FloatFree := by
      intro tgp hTgp
      cases hTgp
      exact message.floatFree_toValue
    have hNesting : envelope.payload.nesting ≤ 125 :=
      le_trans message.depth_toValue (by decide)
    have hRead :=
      TxipEnvelope.fromText_toText library hCanonical
        hFloatFree
    rw [if_pos hNesting] at hRead
    exact ⟨envelope, { tgp := message.toValue }, hRead, rfl,
      message.ofValue_toValue⟩

/- Texts of values without floats never ask for one. -/
@[reducible]
def noFloats : FloatText UInt64 where
  print _ := []
  read _ := none

def compactTexts : JsonLibrary :=
  @Json.compact UInt64 noFloats 127

def testTimestamp : TripleTimestamp where
  mono := 1000
  unix := 1731600000
  iso := "2024-11-14T12:00:00Z"

def testEnvelope (tgpMessage : Value) : TxipEnvelope :=
  .tgp "msg-123" "sess-456" .clientToTbc .buyerAgent .query
    testTimestamp tgpMessage

def testQuery : Value :=
  .object [("phase", .string "QUERY")]

theorem wire_roundTrip_testQuery :
    TxipEnvelope.fromText compactTexts
        ((testEnvelope testQuery).toText compactTexts) =
      .ok (testEnvelope testQuery) := by
  have hCanonical :
      (testEnvelope testQuery).payload.Canonical := by
    intro tgp hTgp
    cases hTgp
    refine .object (List.pairwise_singleton _ _) ?_
    intro entry hEntry
    rw [List.mem_singleton.mp hEntry]
    exact .string "QUERY"
  have hFloatFree :
      (testEnvelope testQuery).payload.FloatFree := by
    intro tgp hTgp
    cases hTgp
    refine .object ?_
    intro entry hEntry
    rw [List.mem_singleton.mp hEntry]
    exact .string "QUERY"
  exact (wire_roundTrip compactTexts).1
    (testEnvelope testQuery) hCanonical hFloatFree

/- So many arrays around null. -/
def nested : Nat → Value
  | 0 => .null
  | n + 1 => .array [nested n]

theorem nested_depth (n : Nat) : (nested n).depth = n := by
  induction n with
  | zero => rfl
  | succ n ih =>
      change max (nested n).depth 0 + 1 = n + 1
      omega

theorem nested_canonical (n : Nat) : (nested n).Canonical := by
  induction n with
  | zero => exact .null
  | succ n ih =>
      refine .array ?_
      intro item hItem
      rw [List.mem_singleton.mp hItem]
      exact ih

theorem nested_floatFree (n : Nat) : (nested n).FloatFree := by
  induction n with
  | zero => exact .null
  | succ n ih =>
      refine .array ?_
      intro item hItem
      rw [List.mem_singleton.mp hItem]
      exact ih

/- A value of 126 layers is written, but not read back. -/
theorem nested_not_restored :
    (testEnvelope (nested 126)).payload.Canonical ∧
      (testEnvelope (nested 126)).payload.FloatFree ∧
      TxipEnvelope.fromText compactTexts
          ((testEnvelope (nested 126)).toText compactTexts) =
        .error (.text .recursionLimitExceeded) := by
  have hCanonical :
      (testEnvelope (nested 126)).payload.Canonical := by
    intro tgp hTgp
    cases hTgp
    exact nested_canonical 126
  have hFloatFree :
      (testEnvelope (nested 126)).payload.FloatFree := by
    intro tgp hTgp
    cases hTgp
    exact nested_floatFree 126
  have hNesting :
      (testEnvelope (nested 126)).payload.nesting = 126 :=
    nested_depth 126
  have hRead :=
    TxipEnvelope.fromText_toText compactTexts hCanonical
      hFloatFree
  rw [if_neg (by omega)] at hRead
  exact ⟨hCanonical, hFloatFree, hRead⟩

end Tgp

end BorderController
