import BorderController.Library.Json
import Mathlib.Data.UInt

/-
  Types that are written as JSON trees and read back: records
  with optional fields, enumerations without data, tagged and
  untagged enumerations.

  If several fields of a tree are wrong, the first one of the
  record is reported.  Tags are not read from numbers.

  Key definitions include:
    * `Serde`
    * `Serde.Record`
    * `Serde.UnitEnum`
    * `Serde.serializeTagged`, `Serde.deserializeTagged`
    * `Serde.deserializeUntagged`
-/

------------------------------------------------------------
-- Types
------------------------------------------------------------

namespace Serde

inductive Error where
  | missingField (name : String)
  | duplicateField (name : String)
  | unknownVariant (name : String)
  | invalidType
  | invalidLength
  | invalidValue
  | noMatchingVariant
deriving DecidableEq, Repr

end Serde

/- How values of a type are written and read. -/
class Serde (F : Type) (α : Type) where
  serialize : α → Json F
  deserialize : Json F → Except Serde.Error α

------------------------------------------------------------
-- Atoms and Lists
------------------------------------------------------------

namespace Serde

variable {F : Type}

instance : Serde F Bool where
  serialize value := .bool value
  deserialize item :=
    match item with
    | .bool value => .ok value
    | _ => .error .invalidType

instance : Serde F String where
  serialize value := .string value
  deserialize item :=
    match item with
    | .string value => .ok value
    | _ => .error .invalidType

/- A whole number below the bound. -/
def deserializeBelow
    (bound : Nat) :
    Json F → Except Error Nat
  | .integer value =>
      if 0 ≤ value ∧ value < bound then
        .ok value.toNat
      else
        .error .invalidValue
  | _ => .error .invalidType

instance : Serde F UInt16 where
  serialize value := .integer value.toNat
  deserialize item :=
    (deserializeBelow (2 ^ 16) item).map UInt16.ofNat

instance : Serde F UInt32 where
  serialize value := .integer value.toNat
  deserialize item :=
    (deserializeBelow (2 ^ 32) item).map UInt32.ofNat

instance : Serde F UInt64 where
  serialize value := .integer value.toNat
  deserialize item :=
    (deserializeBelow (2 ^ 64) item).map UInt64.ofNat

instance
    {α : Type}
    [Serde F α] :
    Serde F (List α) where
  serialize values := .array (values.map serialize)
  deserialize item :=
    match item with
    | .array items => items.mapM deserialize
    | _ => .error .invalidType

end Serde

------------------------------------------------------------
-- Records
------------------------------------------------------------

namespace Serde

variable {F : Type}

/- What stands under a name, if anything. -/
abbrev Fields (F : Type) :=
  String → Except Error (Option (Json F))

/- A name may stand only once; other names are ignored. -/
def fieldsOf (entries : List (String × Json F)) : Fields F :=
  fun name =>
    match entries.filter (fun entry => entry.1 = name) with
    | [] => .ok none
    | [entry] => .ok (some entry.2)
    | _ => .error (.duplicateField name)

/-
  A record lists its fields with their items, none for a
  field that is left out, and is read from its fields.
-/
class Record (F : Type) (α : Type) where
  names : List String
  fields : α → List (String × Option (Json F))
  ofFields : Fields F → Except Error α

variable {α : Type}

def required
    [Serde F α]
    (fields : Fields F)
    (name : String) :
    Except Error α :=
  match fields name with
  | .error e => .error e
  | .ok none => .error (.missingField name)
  | .ok (some item) => deserialize item

/- A field that is missing or null is none. -/
def optional
    [Serde F α]
    (fields : Fields F)
    (name : String) :
    Except Error (Option α) :=
  match fields name with
  | .error e => .error e
  | .ok none => .ok none
  | .ok (some .null) => .ok none
  | .ok (some item) => (deserialize item).map some

/- The entries of the fields that are not left out. -/
def present
    (fields : List (String × Option (Json F))) :
    List (String × Json F) :=
  fields.filterMap fun field =>
    field.2.map fun item => (field.1, item)

namespace Record

def serialize
    [Record F α]
    (value : α) :
    Json F :=
  .object (present (fields value))

/- A record is also read from an array of all its fields. -/
def deserialize
    [Record F α] :
    Json F → Except Error α
  | .object entries => ofFields (fieldsOf entries)
  | .array items =>
      if items.length = (names F α).length then
        ofFields (fieldsOf ((names F α).zip items))
      else
        .error .invalidLength
  | _ => .error .invalidType

instance [Record F α] : Serde F α where
  serialize := serialize
  deserialize := deserialize

end Record

end Serde

------------------------------------------------------------
-- Enumerations
------------------------------------------------------------

namespace Serde

/- An enumeration whose variants carry nothing. -/
class UnitEnum (α : Type) where
  variants : List α
  name : α → String

namespace UnitEnum

variable {α : Type}

def ofName
    [UnitEnum α]
    (name : String) :
    Except Error α :=
  match variants.find? (fun a : α => UnitEnum.name a = name)
  with
  | some a => .ok a
  | none => .error (.unknownVariant name)

variable {F : Type}

/- A variant is also read from an object with null for it. -/
instance [UnitEnum α] : Serde F α where
  serialize a := .string (name a)
  deserialize item :=
    match item with
    | .string name => ofName name
    | .object [(name, .null)] => ofName name
    | _ => .error .invalidType

end UnitEnum

variable {F : Type}
variable {α : Type}

/- A record after the name of its variant. -/
def serializeTagged
    [Record F α]
    (tag name : String)
    (value : α) :
    Json F :=
  .object
    ((tag, .string name) :: present (Record.fields value))

/-
  The variant that the tag names reads the rest, which is an
  array if the whole is one.
-/
def deserializeTagged
    (tag : String)
    (variant : String → Json F → Except Error α) :
    Json F → Except Error α
  | .object entries =>
      match fieldsOf entries tag with
      | .error e => .error e
      | .ok none => .error (.missingField tag)
      | .ok (some (.string name)) =>
          variant name
            (.object
              (entries.filter fun entry => entry.1 ≠ tag))
      | .ok (some _) => .error .invalidType
  | .array (.string name :: items) =>
      variant name (.array items)
  | .array [] => .error (.missingField tag)
  | _ => .error .invalidType

/- The first variant that reads the tree. -/
def deserializeUntagged
    (variants : List (Json F → Except Error α))
    (item : Json F) :
    Except Error α :=
  match variants with
  | [] => .error .noMatchingVariant
  | variant :: variants =>
      match variant item with
      | .ok a => .ok a
      | .error _ => deserializeUntagged variants item

end Serde
