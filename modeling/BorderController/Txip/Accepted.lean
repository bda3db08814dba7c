import BorderController.Txip.RoundTrip
import BorderController.Tgp.Carriage

/-
  Envelopes that are read from any text keep what their types
  promise, so without floats they can be passed on: written
  again they are read as the same envelope.

  Which texts are accepted is left to the reader.  What counts
  is how it reads a TGP payload: the variants of a payload are
  tried on a tree, which lies in the envelope.

  Key definitions include:
    * `EnvelopeReader`
    * `TxipEnvelope.treeReader`

  Key theorems include:
    * `Payload.canonical_of_accepted`
    * `TxipEnvelope.accepted_restored`
-/

------------------------------------------------------------
-- Payloads
------------------------------------------------------------

namespace BorderController

namespace Txip

open Serde

/- The value of a TGP payload lies one layer further in. -/
theorem TgpPayload.value_of_deserialize
    {layers : Nat}
    {item : Json UInt64}
    {payload : TgpPayload}
    (hAccepted : item.Accepted (layers + 1))
    (hRead : deserialize item = .ok payload) :
    ∃ inner : Json UInt64,
      inner.Accepted layers ∧
        payload.tgp = Value.ofJson inner := by
  rcases Record.accepted_of_deserialize hAccepted hRead with
    ⟨fields, hFields, hInner⟩
  rcases bind_eq_ok.mp hFields with ⟨value, hTgp, hPayload⟩
  rcases exists_of_required hTgp with ⟨inner, hField, hValue⟩
  cases hPayload
  cases hValue
  exact ⟨inner, hInner hField, rfl⟩

/- Only its own variant gives a TGP payload. -/
theorem Payload.tgp_of_deserialize
    {item : Json UInt64}
    {payload : TgpPayload}
    (hRead : Payload.deserialize item = .ok (.tgp payload)) :
    Serde.deserialize item = .ok payload := by
  rcases exists_of_deserializeUntagged hRead with
    ⟨variant, hVariant, hFound⟩
  simp only [List.mem_cons, List.not_mem_nil, or_false]
    at hVariant
  rcases hVariant with rfl | rfl | rfl
  · rcases map_eq_ok.mp hFound with ⟨control, _, hOther⟩
    cases hOther
  · rcases map_eq_ok.mp hFound with ⟨tgp, hTgp, hSame⟩
    cases hSame
    exact hTgp
  · rcases map_eq_ok.mp hFound with ⟨error, _, hOther⟩
    cases hOther

/- A payload whose value, if any, was read from a tree. -/
theorem Payload.canonical_of_accepted
    {layers : Nat}
    {payload : Payload}
    (hTree :
      ∀ {tgp},
        payload = .tgp tgp →
        ∃ item : Json UInt64,
          item.Accepted (layers + 1) ∧
            Serde.deserialize item = .ok tgp) :
    payload.Canonical ∧ payload.nesting ≤ layers := by
  cases payload with
  | control control =>
      exact ⟨fun _ hTgp => (by cases hTgp), Nat.zero_le _⟩
  | error error =>
      exact ⟨fun _ hTgp => (by cases hTgp), Nat.zero_le _⟩
  | tgp tgp =>
      rcases hTree rfl with ⟨item, hAccepted, hRead⟩
      rcases TgpPayload.value_of_deserialize hAccepted hRead
        with ⟨inner, hInner, hValue⟩
      constructor
      · intro other hTgp
        cases hTgp
        rw [hValue]
        exact Value.canonical_ofJson hInner.2
      · change tgp.tgp.depth ≤ layers
        rw [hValue]
        exact le_trans (Value.depth_ofJson_le hInner.2) hInner.1

end Txip

end BorderController

------------------------------------------------------------
-- Envelopes
------------------------------------------------------------

namespace BorderController

namespace Txip

open Serde

namespace TxipEnvelope

theorem payload_of_deserialize
    {layers : Nat}
    {item : Json UInt64}
    {envelope : TxipEnvelope}
    (hAccepted : item.Accepted (layers + 1))
    (hRead : deserialize item = .ok envelope) :
    ∃ inner : Json UInt64,
      inner.Accepted layers ∧
        deserialize inner = .ok envelope.payload := by
  rcases Record.accepted_of_deserialize hAccepted hRead with
    ⟨fields, hFields, hInner⟩
  have hPayload :
      required fields "payload" = .ok envelope.payload := by
    simp only [Record.ofFields, bind_eq_ok] at hFields
    rcases hFields with
      ⟨_, _, _, _, _, _, _, _, _, _, _, _, _, _, _, _, _, _, _,
        _, _, _, _, _, payload, hPayload, hEnvelope⟩
    cases hEnvelope
    exact hPayload
  rcases exists_of_required hPayload with
    ⟨inner, hField, hValue⟩
  exact ⟨inner, hInner hField, hValue⟩

end TxipEnvelope

/-
  A way to read texts as envelopes.  The payload is untagged,
  so it is read into a tree before its variants are tried.  Of
  the 127 layers that may be open at once the envelope is one,
  and integers of a tree have 64 bits.
-/
structure EnvelopeReader where
  read : List Char → Option TxipEnvelope
  read_tgp :
    ∀ {text envelope tgp},
      read text = some envelope →
      envelope.payload = .tgp tgp →
      ∃ item : Json UInt64,
        item.Accepted 126 ∧ deserialize item = .ok tgp

namespace TxipEnvelope

theorem tree_of_fromText
    [FloatText UInt64]
    {text : List Char}
    {envelope : TxipEnvelope}
    {tgp : TgpPayload}
    (hText :
      fromText (Json.compact UInt64 127) text = .ok envelope)
    (hTgp : envelope.payload = .tgp tgp) :
    ∃ item : Json UInt64,
      item.Accepted 126 ∧ deserialize item = .ok tgp := by
  unfold fromText at hText
  split at hText
  · cases hText
  next item hItem =>
    have hAccepted : item.Accepted 127 :=
      Json.parse_accepted hItem
    cases hData : (deserialize item : Except _ TxipEnvelope)
      with
    | error e =>
        rw [hData] at hText
        cases hText
    | ok read =>
        rw [hData] at hText
        cases hText
        rcases payload_of_deserialize hAccepted hData with
          ⟨inner, hInner, hPayload⟩
        rw [hTgp] at hPayload
        exact ⟨inner, hInner,
          Payload.tgp_of_deserialize hPayload⟩

/- The reader that makes a tree of the whole text first. -/
def treeReader [FloatText UInt64] : EnvelopeReader where
  read text := (fromText (Json.compact UInt64 127) text).toOption
  read_tgp := by
    intro text envelope tgp hText hTgp
    cases hRead : fromText (Json.compact UInt64 127) text with
    | error e =>
        rw [hRead] at hText
        cases hText
    | ok read =>
        rw [hRead] at hText
        cases hText
        exact tree_of_fromText hRead hTgp

theorem treeReader_read
    [FloatText UInt64]
    {text : List Char}
    {envelope : TxipEnvelope}
    (hText :
      fromText (Json.compact UInt64 127) text = .ok envelope) :
    treeReader.read text = some envelope := by
  unfold treeReader
  simp only [hText]
  rfl

end TxipEnvelope

end Txip

end BorderController

------------------------------------------------------------
-- An Unsorted Query
------------------------------------------------------------

namespace BorderController

namespace Txip

/- An envelope as an array, and its query with its own order. -/
def arrayItem : Json UInt64 :=
  .array
    [.string "0.2", .string "msg-123",
      .string "sess-456", .string "CLIENT_TO_TBC",
      .string "BUYER_AGENT", .integer 1000,
      .integer 1731600000, .string "2024-11-14T12:00:00Z",
      .string "TGP", .string "QUERY", .null, .null,
      .object
        [("tgp",
          .object
            [("phase", .string "QUERY"),
              ("amount", .integer 5)])]]

def arrayEnvelope : TxipEnvelope :=
  Tgp.testEnvelope
    (.object
      [("amount", .number (.posInt 5)),
        ("phase", .string "QUERY")])

theorem arrayItem_plain : arrayItem.Plain := by
  refine .array ?_
  simp only [List.forall_mem_cons]
  refine
    ⟨.string _, .string _, .string _, .string _, .string _,
      .integer (by decide) (by decide),
      .integer (by decide) (by decide), .string _, .string _,
      .string _, .null, .null, .object ?_,
      List.forall_mem_nil _⟩
  refine List.forall_mem_singleton.mpr (.object ?_)
  simp only [List.forall_mem_cons]
  exact
    ⟨.string _, .integer (by decide) (by decide),
      List.forall_mem_nil _⟩

end Txip

end BorderController
