import BorderController.Library.Serde
import Mathlib.Data.List.Perm.Basic
import Mathlib.Tactic.SplitIfs

/-
  Reading back what was written, also after the entries of
  objects have been reordered.

  Key definitions include:
    * `Json.Reorders`
    * `Serde.Lawful`
    * `Serde.Record.Lawful`

  Key theorems include:
    * `Serde.fieldsOf_perm`
    * `Serde.Record.deserialize_perm`
    * `Serde.deserializeTagged_perm`
-/

------------------------------------------------------------
-- Reordering
------------------------------------------------------------

namespace Json

variable {F : Type}

/- Apply a map to the values of entries. -/
def mapValues
    {G : Type}
    (f : F → G)
    (entries : List (String × F)) :
    List (String × G) :=
  entries.map fun entry => (entry.1, f entry.2)

theorem keys_mapValues
    {G : Type}
    (f : F → G)
    (entries : List (String × F)) :
    (mapValues f entries).map Prod.fst =
      entries.map Prod.fst := by
  unfold mapValues
  rw [List.map_map]
  rfl

theorem mapValues_mapValues
    {G H : Type}
    (f : F → G)
    (g : G → H)
    (entries : List (String × F)) :
    mapValues g (mapValues f entries) =
      mapValues (g ∘ f) entries := by
  unfold mapValues
  rw [List.map_map]
  rfl

theorem forall_mem_mapValues
    {G : Type}
    {P : G → Prop}
    {f : F → G}
    {entries : List (String × F)} :
    (∀ entry ∈ mapValues f entries, P entry.2) ↔
      ∀ entry ∈ entries, P (f entry.2) :=
  List.forall_mem_map

theorem mapValues_eq_self
    {f : F → F}
    {entries : List (String × F)}
    (hSame : ∀ entry ∈ entries, f entry.2 = entry.2) :
    mapValues f entries = entries := by
  unfold mapValues
  conv_rhs => rw [← List.map_id entries]
  refine List.map_congr_left ?_
  intro entry hEntry
  exact Prod.ext rfl (hSame entry hEntry)

/-
  A map of trees that changes nothing but the order of
  entries, at every depth.
-/
structure Reorders (f : Json F → Json F) : Prop where
  null_iff : ∀ item, f item = .null ↔ item = .null
  bool : ∀ value, f (.bool value) = .bool value
  integer :
    ∀ value : Int,
      -2 ^ 63 ≤ value →
        value < 2 ^ 64 →
          f (.integer value) = .integer value
  string : ∀ value, f (.string value) = .string value
  array : ∀ items, f (.array items) = .array (items.map f)
  object :
    ∀ entries : List (String × Json F),
      (entries.map Prod.fst).Nodup →
        ∃ reordered,
          f (.object entries) = .object reordered ∧
            reordered.Perm (mapValues f entries)

theorem reorders_id : Reorders (id : Json F → Json F) where
  null_iff item := Iff.rfl
  bool value := rfl
  integer value hLow hHigh := rfl
  string value := rfl
  array items := by
    rw [List.map_id]
    rfl
  object entries hNodup := by
    refine ⟨entries, rfl, ?_⟩
    have hMap : mapValues id entries = entries :=
      List.map_id entries
    rw [hMap]

end Json

------------------------------------------------------------
-- Lawful Types
------------------------------------------------------------

namespace Serde

/-
  Whatever the order of entries, what was written is read
  back.
-/
class Lawful (F : Type) (α : Type) [Serde F α] : Prop where
  restores :
    ∀ {f : Json F → Json F},
      Json.Reorders f →
        ∀ a : α,
          deserialize (f (serialize a)) = .ok a
  plain : ∀ a : α, (serialize a : Json F).Plain
  not_null : ∀ a : α, (serialize a : Json F) ≠ .null

variable {F : Type}

instance : Lawful F Bool where
  restores hReorders a := by
    unfold serialize instBool
    rw [hReorders.bool]
    rfl
  plain a := .bool a
  not_null a := nofun

instance : Lawful F String where
  restores hReorders a := by
    unfold serialize instString
    rw [hReorders.string]
    rfl
  plain a := .string a
  not_null a := nofun

theorem deserializeBelow_natCast
    {f : Json F → Json F}
    {bound n : Nat}
    (hReorders : Json.Reorders f)
    (hBound : bound ≤ 2 ^ 64)
    (hBelow : n < bound) :
    deserializeBelow bound (f (.integer n)) = .ok n := by
  rw [hReorders.integer _ (by omega) (by omega)]
  unfold deserializeBelow
  simp only
  rw [if_pos ⟨by omega, by omega⟩, Int.toNat_natCast]

theorem plain_natCast
    {bound n : Nat}
    (hBound : bound ≤ 2 ^ 64)
    (hBelow : n < bound) :
    (Json.integer n : Json F).Plain :=
  .integer (by omega) (by omega)

instance : Lawful F UInt16 where
  restores hReorders a := by
    unfold serialize deserialize instUInt16
    simp only
    rw [deserializeBelow_natCast hReorders (by decide)
      a.toNat_lt]
    exact congrArg Except.ok UInt16.ofNat_toNat
  plain a := plain_natCast (by decide) a.toNat_lt
  not_null a := nofun

instance : Lawful F UInt32 where
  restores hReorders a := by
    unfold serialize deserialize instUInt32
    simp only
    rw [deserializeBelow_natCast hReorders (by decide)
      a.toNat_lt]
    exact congrArg Except.ok UInt32.ofNat_toNat
  plain a := plain_natCast (by decide) a.toNat_lt
  not_null a := nofun

instance : Lawful F UInt64 where
  restores hReorders a := by
    unfold serialize deserialize instUInt64
    simp only
    rw [deserializeBelow_natCast hReorders (by decide)
      a.toNat_lt]
    exact congrArg Except.ok UInt64.ofNat_toNat
  plain a := plain_natCast (by decide) a.toNat_lt
  not_null a := nofun

variable {α : Type}

theorem mapM_deserialize
    [Serde F α]
    [Lawful F α]
    {f : Json F → Json F}
    (hReorders : Json.Reorders f)
    (values : List α) :
    ((values.map serialize).map f).mapM deserialize =
      .ok values := by
  induction values with
  | nil => rfl
  | cons value values ih =>
      rw [List.map_cons, List.map_cons, List.mapM_cons,
        Lawful.restores hReorders, ih]
      rfl

instance
    [Serde F α]
    [Lawful F α] :
    Lawful F (List α) where
  restores hReorders values := by
    unfold serialize deserialize instList
    simp only
    rw [hReorders.array]
    exact mapM_deserialize hReorders values
  plain values := by
    refine .array ?_
    intro item hItem
    rcases List.mem_map.mp hItem with ⟨value, _, hSame⟩
    rw [← hSame]
    exact Lawful.plain value
  not_null values := nofun

end Serde

------------------------------------------------------------
-- Records
------------------------------------------------------------

namespace Serde

variable {F : Type}
variable {f : Json F → Json F}
variable {fields : List (String × Option (Json F))}

theorem keys_present
    (fields : List (String × Option (Json F))) :
    ((present fields).map Prod.fst).Sublist
      (fields.map Prod.fst) := by
  induction fields with
  | nil => exact .slnil
  | cons field fields ih =>
      rcases field with ⟨name, _ | item⟩
      · exact ih.cons name
      · exact ih.cons_cons name

theorem filter_present_eq_nil
    {name : String}
    (hName : name ∉ fields.map Prod.fst) :
    (present fields).filter (fun entry => entry.1 = name) =
      [] := by
  rw [List.filter_eq_nil_iff]
  intro entry hEntry hSame
  apply hName
  apply (keys_present fields).subset
  rw [← of_decide_eq_true hSame]
  exact List.mem_map_of_mem hEntry

theorem filter_present
    (hNodup : (fields.map Prod.fst).Nodup)
    (name : String) :
    (present fields).filter (fun entry => entry.1 = name) =
      ((fields.lookup name).join.map
        fun item => (name, item)).toList := by
  induction fields with
  | nil => rfl
  | cons field fields ih =>
      rcases field with ⟨other, item⟩
      rw [List.map_cons, List.nodup_cons] at hNodup
      have hRest := ih hNodup.2
      rw [List.lookup_cons]
      by_cases hSame : name = other
      · subst hSame
        have hNone := filter_present_eq_nil hNodup.1
        cases item with
        | none => simpa [present] using hNone
        | some item => simpa [present] using hNone
      · have hBeq : (name == other) = false :=
          beq_eq_false_iff_ne.mpr hSame
        have hOther : ¬ other = name :=
          fun h => hSame h.symm
        cases item with
        | none => simpa [present, hBeq] using hRest
        | some item =>
            simpa [present, hBeq, hOther] using hRest

/- The fields as they are found after reordering. -/
def reordered
    (f : Json F → Json F)
    (fields : List (String × Option (Json F))) :
    Fields F :=
  fun name => .ok ((fields.lookup name).join.map f)

theorem fieldsOf_perm
    {entries : List (String × Json F)}
    (hNodup : (fields.map Prod.fst).Nodup)
    (hPerm :
      entries.Perm (Json.mapValues f (present fields))) :
    fieldsOf entries = reordered f fields := by
  funext name
  have hFilter :=
    hPerm.filter (fun entry => entry.1 = name)
  have hMapped :
      (Json.mapValues f (present fields)).filter
          (fun entry => entry.1 = name) =
        Json.mapValues f
          ((fields.lookup name).join.map
            fun item => (name, item)).toList := by
    rw [← filter_present hNodup]
    unfold Json.mapValues
    rw [List.filter_map]
    rfl
  rw [hMapped] at hFilter
  unfold fieldsOf reordered
  cases hLookup : (fields.lookup name).join with
  | none =>
      rw [hLookup] at hFilter
      rw [List.Perm.eq_nil hFilter]
      rfl
  | some item =>
      rw [hLookup] at hFilter
      rw [List.perm_singleton.mp hFilter]
      rfl

variable {α : Type}
variable [Serde F α]

theorem required_of_restores
    {a : α}
    (hRestores : deserialize (f (serialize a)) = .ok a)
    (name : String) :
    required
        (reordered f ((name, some (serialize a)) :: fields))
        name =
      .ok a := by
  unfold required reordered
  rw [List.lookup_cons_self]
  exact hRestores

theorem reordered_tail
    {name other : String}
    {item : Option (Json F)}
    (hOther : name ≠ other) :
    reordered f ((other, item) :: fields) name =
      reordered f fields name := by
  have hBeq : (name == other) = false :=
    beq_eq_false_iff_ne.mpr hOther
  unfold reordered
  rw [List.lookup_cons, hBeq]

@[simp]
theorem required_tail
    {name other : String}
    {item : Option (Json F)}
    (hOther : name ≠ other) :
    (required (reordered f ((other, item) :: fields)) name :
        Except Error α) =
      required (reordered f fields) name := by
  unfold required
  rw [reordered_tail hOther]

@[simp]
theorem optional_tail
    {name other : String}
    {item : Option (Json F)}
    (hOther : name ≠ other) :
    (optional (reordered f ((other, item) :: fields)) name :
        Except Error (Option α)) =
      optional (reordered f fields) name := by
  unfold optional
  rw [reordered_tail hOther]

@[simp]
theorem required_nil
    (f : Json F → Json F)
    (name : String) :
    (required (reordered f []) name : Except Error α) =
      .error (.missingField name) := rfl

variable [Lawful F α]

@[simp]
theorem required_head
    (hReorders : Json.Reorders f)
    (name : String)
    (a : α) :
    required
        (reordered f ((name, some (serialize a)) :: fields))
        name =
      .ok a :=
  required_of_restores (Lawful.restores hReorders a) name

@[simp]
theorem optional_head
    (hReorders : Json.Reorders f)
    (name : String)
    (a : Option α) :
    optional
        (reordered f ((name, a.map serialize) :: fields))
        name =
      .ok a := by
  unfold optional reordered
  rw [List.lookup_cons_self]
  cases a with
  | none => rfl
  | some a =>
      have hNull : f (serialize a) ≠ .null := fun hNull =>
        Lawful.not_null a ((hReorders.null_iff _).mp hNull)
      have hRestores := Lawful.restores hReorders a
      simp only [Option.map_some, Option.join_some, hRestores]
      rfl

end Serde

namespace Serde

variable {F : Type}
variable {α : Type}

/- Records whose fields are read back after reordering. -/
class Record.Lawful
    (F : Type)
    (α : Type)
    [Record F α] : Prop where
  nodup :
    ∀ a : α,
      ((Record.fields (F := F) a).map Prod.fst).Nodup
  restores :
    ∀ {f : Json F → Json F},
      Json.Reorders f →
        ∀ a : α,
          Record.ofFields (reordered f (Record.fields a)) =
            .ok a
  plain :
    ∀ a : α,
      ∀ field ∈ Record.fields (F := F) a,
        ∀ item ∈ field.2, item.Plain

theorem plain_present
    {fields : List (String × Option (Json F))}
    (hPlain :
      ∀ field ∈ fields, ∀ item ∈ field.2, item.Plain) :
    ∀ entry ∈ present fields, entry.2.Plain := by
  intro entry hEntry
  rcases List.mem_filterMap.mp hEntry with
    ⟨field, hField, hSome⟩
  rcases Option.map_eq_some_iff.mp hSome with
    ⟨item, hItem, hSame⟩
  rw [← hSame]
  exact hPlain field hField item hItem

namespace Record

variable {f : Json F → Json F}
variable [Record F α]

/-
  Any record type finds the fields of a record, in whatever
  order its entries stand.
-/
theorem deserialize_perm
    {β : Type}
    [Record F β]
    {a : α}
    {entries : List (String × Json F)}
    (hNodup : ((fields (F := F) a).map Prod.fst).Nodup)
    (hPerm :
      entries.Perm
        (Json.mapValues f (present (fields a)))) :
    (Serde.deserialize (.object entries : Json F) :
        Except Error β) =
      ofFields (reordered f (fields a)) := by
  have hFields := fieldsOf_perm hNodup hPerm
  change ofFields (fieldsOf entries) = _
  rw [hFields]

theorem deserialize_serialize
    {β : Type}
    [Record F β]
    {a : α}
    (hNodup : ((fields (F := F) a).map Prod.fst).Nodup) :
    (Serde.deserialize (Serde.serialize a : Json F) :
        Except Error β) =
      ofFields (reordered id (fields (F := F) a)) := by
  refine deserialize_perm hNodup ?_
  have hSame :
      Json.mapValues id (present (fields (F := F) a)) =
        present (fields a) :=
    Json.mapValues_eq_self fun _ _ => rfl
  rw [hSame]

instance [Record.Lawful F α] : Serde.Lawful F α where
  restores := by
    intro f hReorders a
    have hNodup := Lawful.nodup (F := F) a
    have hKeys := hNodup.sublist (keys_present (fields a))
    rcases hReorders.object _ hKeys with
      ⟨entries, hObject, hPerm⟩
    change Record.deserialize (f (Record.serialize a)) = .ok a
    unfold Record.serialize
    rw [hObject]
    exact (deserialize_perm hNodup hPerm).trans
      (Lawful.restores hReorders a)
  plain a := .object (plain_present (Lawful.plain a))
  not_null a := nofun

end Record

end Serde

------------------------------------------------------------
-- Enumerations
------------------------------------------------------------

namespace Serde

variable {F : Type}
variable {α : Type}

class UnitEnum.Lawful (α : Type) [UnitEnum α] : Prop where
  ofName_name :
    ∀ a : α, UnitEnum.ofName (UnitEnum.name a) = .ok a

instance
    [UnitEnum α]
    [UnitEnum.Lawful α] :
    Lawful F α where
  restores := by
    intro f hReorders a
    change deserialize (f (.string (UnitEnum.name a))) = .ok a
    rw [hReorders.string]
    exact UnitEnum.Lawful.ofName_name a
  plain a := .string _
  not_null a := nofun

/-
  A tagged record is read by its variant, in whatever order
  the tag and the fields stand.
-/
theorem deserializeTagged_perm
    [Record F α]
    {f : Json F → Json F}
    {β : Type}
    {tag name : String}
    {a : α}
    {entries : List (String × Json F)}
    (hReorders : Json.Reorders f)
    (hNodup :
      (tag ::
        (Record.fields (F := F) a).map Prod.fst).Nodup)
    (hPerm :
      entries.Perm
        (Json.mapValues f
          ((tag, .string name) :: present (Record.fields a))))
    (variant : String → Json F → Except Error β) :
    ∃ rest,
      deserializeTagged tag variant (.object entries) =
          variant name (.object rest) ∧
        rest.Perm
          (Json.mapValues f (present (Record.fields a))) := by
  let fields : List (String × Option (Json F)) :=
    (tag, some (.string name)) :: Record.fields a
  have hFields : fieldsOf entries = reordered f fields :=
    fieldsOf_perm hNodup hPerm
  have hTag :
      fieldsOf entries tag = .ok (some (.string name)) := by
    rw [hFields]
    unfold reordered fields
    rw [List.lookup_cons_self]
    simp only [Option.join_some, Option.map_some,
      hReorders.string]
  refine ⟨entries.filter fun entry => entry.1 ≠ tag, ?_, ?_⟩
  · unfold deserializeTagged
    simp only [hTag]
  · have hFilter :=
      hPerm.filter (fun entry => entry.1 ≠ tag)
    have hKept :
        (Json.mapValues f
            ((tag, .string name) ::
              present (Record.fields a))).filter
            (fun entry => entry.1 ≠ tag) =
          Json.mapValues f (present (Record.fields a)) := by
      unfold Json.mapValues
      rw [List.map_cons, List.filter_cons_of_neg (by simp),
        List.filter_eq_self]
      intro entry hEntry
      rcases List.mem_map.mp hEntry with
        ⟨field, hField, hSame⟩
      apply decide_eq_true
      intro hTag
      apply (List.nodup_cons.mp hNodup).1
      apply (keys_present (Record.fields a)).subset
      subst hSame
      rw [← hTag]
      exact List.mem_map.mpr ⟨field, hField, rfl⟩
    rw [hKept] at hFilter
    exact hFilter

/- A tagged record is read back by its variant. -/
theorem deserializeTagged_serializeTagged
    [Record F α]
    [Record.Lawful F α]
    {f : Json F → Json F}
    {β : Type}
    {tag name : String}
    {variant : String → Json F → Except Error β}
    {wrap : α → β}
    (hReorders : Json.Reorders f)
    (a : α)
    (hTag : tag ∉ (Record.fields (F := F) a).map Prod.fst)
    (hVariant :
      ∀ item,
        variant name item =
          (deserialize item : Except Error α).map wrap) :
    deserializeTagged tag variant
        (f (serializeTagged tag name a)) =
      .ok (wrap a) := by
  have hNodup := Record.Lawful.nodup (F := F) a
  have hTagged := List.nodup_cons.mpr ⟨hTag, hNodup⟩
  have hKeys :
      (((tag, .string name) ::
        present (Record.fields (F := F) a)).map
          Prod.fst).Nodup :=
    hTagged.sublist ((keys_present _).cons_cons tag)
  rcases hReorders.object _ hKeys with
    ⟨entries, hObject, hPerm⟩
  rcases deserializeTagged_perm hReorders hTagged hPerm
      variant with
    ⟨rest, hRead, hRest⟩
  have hRecord :=
    (Record.deserialize_perm hNodup hRest).trans
      (Record.Lawful.restores hReorders a)
  unfold serializeTagged
  rw [hObject, hRead, hVariant, hRecord]
  rfl

theorem plain_serializeTagged
    [Record F α]
    [Record.Lawful F α]
    (tag name : String)
    (a : α) :
    (serializeTagged tag name a : Json F).Plain := by
  refine .object ?_
  intro entry hEntry
  rcases List.mem_cons.mp hEntry with hTag | hField
  · rw [hTag]
    exact .string name
  · exact plain_present (Record.Lawful.plain a) entry hField

/- Without its tag nothing is read. -/
theorem deserializeTagged_record
    [Record F α]
    {β : Type}
    {tag : String}
    {a : α}
    (hTag : tag ∉ (Record.fields (F := F) a).map Prod.fst)
    (variant : String → Json F → Except Error β) :
    deserializeTagged tag variant (serialize a) =
      .error (.missingField tag) := by
  have hNone := filter_present_eq_nil hTag
  change deserializeTagged tag variant
    (.object (present (Record.fields a))) = _
  unfold deserializeTagged fieldsOf
  simp only [hNone]

theorem deserializeUntagged_of_ok
    {variant : Json F → Except Error α}
    {variants : List (Json F → Except Error α)}
    {item : Json F}
    {a : α}
    (hRead : variant item = .ok a) :
    deserializeUntagged (variant :: variants) item =
      .ok a := by
  unfold deserializeUntagged
  rw [hRead]

theorem deserializeUntagged_of_error
    {variant : Json F → Except Error α}
    {variants : List (Json F → Except Error α)}
    {item : Json F}
    {e : Error}
    (hFails : variant item = .error e) :
    deserializeUntagged (variant :: variants) item =
      deserializeUntagged variants item := by
  conv_lhs => unfold deserializeUntagged
  rw [hFails]

end Serde

------------------------------------------------------------
-- Depth
------------------------------------------------------------

namespace Json

variable {F : Type}
variable {items : List (Json F)}
variable {entries : List (String × Json F)}
variable {layers : Nat}

theorem depthItems_le_iff :
    depthItems items ≤ layers ↔
      ∀ item ∈ items, item.depth ≤ layers := by
  induction items with
  | nil => simp [depthItems]
  | cons item items ih =>
      rw [depthItems, Nat.max_le, ih, List.forall_mem_cons]

theorem depthEntries_le_iff :
    depthEntries entries ≤ layers ↔
      ∀ entry ∈ entries, entry.2.depth ≤ layers := by
  induction entries with
  | nil => simp [depthEntries]
  | cons entry entries ih =>
      rw [depthEntries, Nat.max_le, ih, List.forall_mem_cons]

theorem le_depthItems
    {item : Json F}
    (hItem : item ∈ items) :
    item.depth ≤ depthItems items :=
  depthItems_le_iff.mp (le_refl _) item hItem

theorem le_depthEntries
    {entry : String × Json F}
    (hEntry : entry ∈ entries) :
    entry.2.depth ≤ depthEntries entries :=
  depthEntries_le_iff.mp (le_refl _) entry hEntry

end Json

namespace Serde

variable {F : Type}

/- Types that are written without arrays and objects. -/
class Atomic (F : Type) (α : Type) [Serde F α] : Prop where
  depth_eq : ∀ a : α, (serialize a : Json F).depth = 0

instance : Atomic F Bool where
  depth_eq _ := rfl

instance : Atomic F String where
  depth_eq _ := rfl

instance : Atomic F UInt16 where
  depth_eq _ := rfl

instance : Atomic F UInt32 where
  depth_eq _ := rfl

instance : Atomic F UInt64 where
  depth_eq _ := rfl

variable {α : Type}

instance [UnitEnum α] : Atomic F α where
  depth_eq _ := rfl

/- The depth of the fields that are present. -/
def depthFields
    (fields : List (String × Option (Json F))) : Nat :=
  Json.depthEntries (present fields)

@[simp]
theorem depthFields_nil :
    depthFields ([] : List (String × Option (Json F))) = 0 :=
  rfl

@[simp]
theorem depthFields_some
    (name : String)
    (item : Json F)
    (fields : List (String × Option (Json F))) :
    depthFields ((name, some item) :: fields) =
      max item.depth (depthFields fields) := rfl

@[simp]
theorem depth_record
    [Record F α]
    (a : α) :
    (serialize a : Json F).depth =
      depthFields (Record.fields (F := F) a) + 1 := rfl

@[simp]
theorem depth_tagged
    [Record F α]
    (tag name : String)
    (a : α) :
    (serializeTagged tag name a : Json F).depth =
      depthFields (Record.fields (F := F) a) + 1 :=
  congrArg Nat.succ (Nat.zero_max _)

variable [Serde F α]

@[simp]
theorem depth_atom
    [Atomic F α]
    (a : α) :
    (serialize a : Json F).depth = 0 :=
  Atomic.depth_eq a

@[simp]
theorem depthFields_option
    [Atomic F α]
    (name : String)
    (a : Option α)
    (fields : List (String × Option (Json F))) :
    depthFields ((name, a.map serialize) :: fields) =
      depthFields fields := by
  cases a with
  | none => rfl
  | some a =>
      rw [Option.map_some, depthFields_some, depth_atom,
        Nat.zero_max]

theorem depth_list_le
    [Atomic F α]
    (as : List α) :
    (serialize as : Json F).depth ≤ 1 := by
  have hItems :
      Json.depthItems (as.map (serialize (F := F))) ≤ 0 := by
    apply Json.depthItems_le_iff.mpr
    intro item hItem
    rcases List.mem_map.mp hItem with ⟨a, _, hSame⟩
    rw [← hSame, depth_atom]
  exact Nat.succ_le_succ hItems

end Serde
