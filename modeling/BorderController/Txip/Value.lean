import BorderController.Library.JsonAccepted
import BorderController.Library.SortedMap
import BorderController.Txip.Types
import Mathlib.Data.String.Basic

/-
  JSON values as trees, and how a tree becomes a value: the
  entries of its objects go into maps sorted by key.

  Key definitions include:
    * `Value.toJson`, `Value.ofJson`
    * `Value.Canonical`, `Value.FloatFree`

  Key theorems include:
    * `Value.ofJson_toJson`
    * `Value.reorders_normal`
    * `Value.canonical_ofJson`
-/

------------------------------------------------------------
-- Values and Trees
------------------------------------------------------------

namespace BorderController

namespace Txip

namespace Number

def toJson : Number → Json UInt64
  | .posInt n => .integer n.toNat
  | .negInt n => .integer n.toInt
  | .float bits => .float bits

/- An integer of a tree has 64 bits, with or without a sign. -/
def ofInteger (n : Int) : Number :=
  if 0 ≤ n then
    .posInt (UInt64.ofNat n.toNat)
  else
    .negInt (Int64.ofInt n)

end Number

namespace Value

mutual

def toJson : Value → Json UInt64
  | .null => .null
  | .bool value => .bool value
  | .number value => value.toJson
  | .string value => .string value
  | .array items => .array (toItems items)
  | .object entries => .object (toEntries entries)

def toItems : List Value → List (Json UInt64)
  | [] => []
  | item :: items => item.toJson :: toItems items

def toEntries :
    List (String × Value) → List (String × Json UInt64)
  | [] => []
  | (key, value) :: entries =>
      (key, value.toJson) :: toEntries entries

end

mutual

def ofJson : Json UInt64 → Value
  | .null => .null
  | .bool value => .bool value
  | .integer value => .number (.ofInteger value)
  | .float bits => .number (.float bits)
  | .string value => .string value
  | .array items => .array (ofItems items)
  | .object entries =>
      .object (SortedMap.ofEntries (ofEntries entries))

def ofItems : List (Json UInt64) → List Value
  | [] => []
  | item :: items => ofJson item :: ofItems items

def ofEntries :
    List (String × Json UInt64) → List (String × Value)
  | [] => []
  | (key, value) :: entries =>
      (key, ofJson value) :: ofEntries entries

end

theorem toItems_eq (items : List Value) :
    toItems items = items.map toJson := by
  induction items with
  | nil => rfl
  | cons item items ih => rw [toItems, ih, List.map_cons]

theorem toEntries_eq (entries : List (String × Value)) :
    toEntries entries = Json.mapValues toJson entries := by
  induction entries with
  | nil => rfl
  | cons entry entries ih =>
      rw [toEntries, ih]
      rfl

theorem ofItems_eq (items : List (Json UInt64)) :
    ofItems items = items.map ofJson := by
  induction items with
  | nil => rfl
  | cons item items ih => rw [ofItems, ih, List.map_cons]

theorem ofEntries_eq
    (entries : List (String × Json UInt64)) :
    ofEntries entries = Json.mapValues ofJson entries := by
  induction entries with
  | nil => rfl
  | cons entry entries ih =>
      rw [ofEntries, ih]
      rfl

end Value

/- A value is written and read as it is. -/
instance : Serde UInt64 Value where
  serialize := Value.toJson
  deserialize item := .ok (Value.ofJson item)

end Txip

end BorderController

------------------------------------------------------------
-- Canonical Values
------------------------------------------------------------

namespace BorderController

namespace Txip

namespace Value

/-
  What the types of the source guarantee of every value: the
  keys of an object are distinct and sorted, and a signed
  number is negative.
-/
inductive Canonical : Value → Prop
  | null : Canonical .null
  | bool (value : Bool) : Canonical (.bool value)
  | posInt (n : UInt64) : Canonical (.number (.posInt n))
  | negInt {n : Int64} :
      n.toInt < 0 →
      Canonical (.number (.negInt n))
  | float (bits : UInt64) : Canonical (.number (.float bits))
  | string (value : String) : Canonical (.string value)
  | array {items : List Value} :
      (∀ item ∈ items, Canonical item) →
      Canonical (.array items)
  | object {entries : List (String × Value)} :
      SortedMap.Sorted entries →
      (∀ entry ∈ entries, Canonical entry.2) →
      Canonical (.object entries)

inductive FloatFree : Value → Prop
  | null : FloatFree .null
  | bool (value : Bool) : FloatFree (.bool value)
  | posInt (n : UInt64) : FloatFree (.number (.posInt n))
  | negInt (n : Int64) : FloatFree (.number (.negInt n))
  | string (value : String) : FloatFree (.string value)
  | array {items : List Value} :
      (∀ item ∈ items, FloatFree item) →
      FloatFree (.array items)
  | object {entries : List (String × Value)} :
      (∀ entry ∈ entries, FloatFree entry.2) →
      FloatFree (.object entries)

/- How deep arrays and objects are nested. -/
def depth (value : Value) : Nat :=
  value.toJson.depth

theorem ofInteger_toInt
    {n : Int64}
    (hNegative : n.toInt < 0) :
    Number.ofInteger n.toInt = .negInt n := by
  unfold Number.ofInteger
  rw [if_neg (by omega), Int64.ofInt_toInt]

theorem ofInteger_toNat (n : UInt64) :
    Number.ofInteger n.toNat = .posInt n := by
  unfold Number.ofInteger
  rw [if_pos (by omega), Int.toNat_natCast,
    UInt64.ofNat_toNat]

theorem ofJson_toJson
    {value : Value}
    (hCanonical : value.Canonical) :
    ofJson value.toJson = value := by
  induction hCanonical with
  | null => rfl
  | bool value => rfl
  | posInt n =>
      exact congrArg Value.number (ofInteger_toNat n)
  | negInt hNegative =>
      exact congrArg Value.number (ofInteger_toInt hNegative)
  | float bits => rfl
  | string value => rfl
  | @array items hItems ih =>
      rw [toJson, ofJson, ofItems_eq, toItems_eq, List.map_map]
      conv_rhs => rw [← List.map_id items]
      exact congrArg Value.array (List.map_congr_left ih)
  | @object entries hSorted hEntries ih =>
      rw [toJson, ofJson, ofEntries_eq, toEntries_eq,
        Json.mapValues_mapValues, Json.mapValues_eq_self ih,
        SortedMap.ofEntries_of_sorted hSorted]

end Value

end Txip

end BorderController

------------------------------------------------------------
-- Through Values
------------------------------------------------------------

namespace BorderController

namespace Txip

namespace Value

/- A tree through its value. -/
def normal (item : Json UInt64) : Json UInt64 :=
  (ofJson item).toJson

theorem toJson_ofInteger
    {n : Int}
    (hLow : -2 ^ 63 ≤ n)
    (hHigh : n < 2 ^ 64) :
    (Number.ofInteger n).toJson = .integer n := by
  unfold Number.ofInteger
  split_ifs with hSign
  · have hNat : n.toNat < 2 ^ 64 := by omega
    rw [Number.toJson, UInt64.toNat_ofNat_of_lt' hNat]
    congr 1
    omega
  · rw [Number.toJson, Int64.toInt_ofInt_of_le hLow (by omega)]

/- Only the order of entries is lost. -/
theorem reorders_normal : Json.Reorders normal where
  null_iff item := by
    constructor
    · intro hNull
      cases item with
      | null => rfl
      | integer n =>
          unfold normal at hNull
          rw [ofJson, toJson] at hNull
          unfold Number.ofInteger at hNull
          split_ifs at hNull <;> cases hNull
      | _ => cases hNull
    · intro hNull
      rw [hNull]
      rfl
  bool value := rfl
  integer value hLow hHigh := toJson_ofInteger hLow hHigh
  string value := rfl
  array items := by
    unfold normal
    rw [ofJson, toJson, ofItems_eq, toItems_eq, List.map_map]
    rfl
  object entries hNodup := by
    refine ⟨_, rfl, ?_⟩
    rw [toEntries_eq, ofEntries_eq]
    have hKeys :
        ((Json.mapValues ofJson entries).map
          Prod.fst).Nodup := by
      rw [Json.keys_mapValues]
      exact hNodup
    have hPerm := SortedMap.ofEntries_perm hKeys
    have hMapped :
        (Json.mapValues toJson
            (SortedMap.ofEntries
              (Json.mapValues ofJson entries))).Perm
          (Json.mapValues toJson
            (Json.mapValues ofJson entries)) :=
      hPerm.map _
    rw [Json.mapValues_mapValues] at hMapped
    exact hMapped

theorem canonical_ofJson
    {item : Json UInt64}
    (hInRange : item.InRange) :
    (ofJson item).Canonical := by
  induction hInRange with
  | null => exact .null
  | bool value => exact .bool value
  | @integer value hLow hHigh =>
      rw [ofJson]
      unfold Number.ofInteger
      split_ifs with hSign
      · exact .posInt _
      · refine .negInt ?_
        rw [Int64.toInt_ofInt_of_le hLow (by omega)]
        omega
  | float bits => exact .float bits
  | string value => exact .string value
  | @array items hItems ih =>
      rw [ofJson, ofItems_eq]
      exact .array (List.forall_mem_map.mpr ih)
  | @object entries hEntries ih =>
      rw [ofJson, ofEntries_eq]
      refine .object SortedMap.sorted_ofEntries ?_
      intro entry hEntry
      have hIn := SortedMap.mem_of_mem_ofEntries hEntry
      exact Json.forall_mem_mapValues.mpr ih entry hIn

theorem floatFree_ofJson
    {item : Json UInt64}
    (hPlain : item.Plain) :
    (ofJson item).FloatFree := by
  induction hPlain with
  | null => exact .null
  | bool value => exact .bool value
  | @integer value hLow hHigh =>
      rw [ofJson]
      unfold Number.ofInteger
      split_ifs with hSign
      · exact .posInt _
      · exact .negInt _
  | string value => exact .string value
  | @array items hItems ih =>
      rw [ofJson, ofItems_eq]
      exact .array (List.forall_mem_map.mpr ih)
  | @object entries hEntries ih =>
      rw [ofJson, ofEntries_eq]
      refine .object ?_
      intro entry hEntry
      have hIn := SortedMap.mem_of_mem_ofEntries hEntry
      exact Json.forall_mem_mapValues.mpr ih entry hIn

theorem plain_toJson
    {value : Value}
    (hFloatFree : value.FloatFree) :
    value.toJson.Plain := by
  induction hFloatFree with
  | null => exact .null
  | bool value => exact .bool value
  | posInt n =>
      have hBelow := n.toNat_lt
      exact .integer (by omega) (by omega)
  | negInt n =>
      have hLow := n.le_toInt
      have hHigh := n.toInt_lt
      exact .integer (by omega) (by omega)
  | string value => exact .string value
  | @array items hItems ih =>
      rw [toJson, toItems_eq]
      exact .array (List.forall_mem_map.mpr ih)
  | @object entries hEntries ih =>
      rw [toJson, toEntries_eq]
      exact .object (Json.forall_mem_mapValues.mpr ih)

/- Collecting entries in maps nests nothing deeper. -/
theorem depth_ofJson_le
    {item : Json UInt64}
    (hInRange : item.InRange) :
    (ofJson item).depth ≤ item.depth := by
  unfold depth
  induction hInRange with
  | null => exact le_refl _
  | bool value => exact le_refl _
  | @integer value hLow hHigh =>
      rw [ofJson, toJson, toJson_ofInteger hLow hHigh]
  | float bits => exact le_refl _
  | string value => exact le_refl _
  | @array items hItems ih =>
      rw [ofJson, ofItems_eq, toJson, toItems_eq, List.map_map]
      refine Nat.succ_le_succ ?_
      refine Json.depthItems_le_iff.mpr ?_
      refine List.forall_mem_map.mpr ?_
      intro item hItem
      exact le_trans (ih item hItem)
        (Json.le_depthItems hItem)
  | @object entries hEntries ih =>
      rw [ofJson, ofEntries_eq, toJson, toEntries_eq]
      refine Nat.succ_le_succ ?_
      refine Json.depthEntries_le_iff.mpr ?_
      intro entry hEntry
      rcases List.mem_map.mp hEntry with ⟨kept, hKept, hSame⟩
      have hIn := SortedMap.mem_of_mem_ofEntries hKept
      rcases List.mem_map.mp hIn with ⟨inner, hInner, hValue⟩
      rw [← hSame, ← hValue]
      exact le_trans (ih inner hInner)
        (Json.le_depthEntries hInner)

end Value

end Txip

end BorderController
