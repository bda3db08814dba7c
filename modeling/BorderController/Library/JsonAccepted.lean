import BorderController.Library.SerdeRoundTrip

/-
  What the parser accepts.

  A tree that was read is nested no deeper than the limit, and
  its integers have 64 bits; so it is small enough to be
  written and read again.

  Key definitions include:
    * `Json.InRange`
    * `Json.Accepted`
    * `Json.Yields`

  Key theorems include:
    * `Json.parse_accepted`
    * `Serde.Record.accepted_of_deserialize`
-/

------------------------------------------------------------
-- Accepted Trees
------------------------------------------------------------

namespace Json

variable {F : Type}

/- Every integer is in the range of those that are read. -/
inductive InRange : Json F → Prop
  | null : InRange .null
  | bool (value : Bool) : InRange (.bool value)
  | integer {value : Int} :
      -2 ^ 63 ≤ value →
      value < 2 ^ 64 →
      InRange (.integer value)
  | float (value : F) : InRange (.float value)
  | string (value : String) : InRange (.string value)
  | array {items : List (Json F)} :
      (∀ item ∈ items, InRange item) →
      InRange (.array items)
  | object {entries : List (String × Json F)} :
      (∀ entry ∈ entries, InRange entry.2) →
      InRange (.object entries)

theorem Plain.inRange
    {item : Json F}
    (hPlain : item.Plain) :
    item.InRange := by
  induction hPlain with
  | null => exact .null
  | bool value => exact .bool value
  | integer hLow hHigh => exact .integer hLow hHigh
  | string value => exact .string value
  | array hItems ih => exact .array ih
  | object hEntries ih => exact .object ih

/- What a reader with this many layers may return. -/
def Accepted
    (layers : Nat)
    (item : Json F) :
    Prop :=
  item.depth ≤ layers ∧ item.InRange

theorem accepted_array
    {items : List (Json F)}
    {layers : Nat}
    (hItems : ∀ item ∈ items, Accepted layers item) :
    Accepted (layers + 1) (.array items) := by
  constructor
  · have hDepth :=
      depthItems_le_iff.mpr fun item hItem =>
        (hItems item hItem).1
    exact Nat.succ_le_succ hDepth
  · exact .array fun item hItem => (hItems item hItem).2

theorem accepted_object
    {entries : List (String × Json F)}
    {layers : Nat}
    (hEntries : ∀ entry ∈ entries, Accepted layers entry.2) :
    Accepted (layers + 1) (.object entries) := by
  constructor
  · have hDepth :=
      depthEntries_le_iff.mpr fun entry hEntry =>
        (hEntries entry hEntry).1
    exact Nat.succ_le_succ hDepth
  · exact .object fun entry hEntry => (hEntries entry hEntry).2

end Json

------------------------------------------------------------
-- Parsers
------------------------------------------------------------

namespace Json

variable {F α : Type}

/- Whatever is read has the property. -/
def Yields
    (parser : Parser α)
    (P : α → Prop) :
    Prop :=
  ∀ {input a rest}, parser input = .ok (a, rest) → P a

variable {value : Parser (Json F)}
variable {P : Json F → Prop}

theorem Yields.parseItems
    (hValue : Yields value P)
    (fuel : Nat) :
    Yields (parseItems value fuel)
      fun items => ∀ item ∈ items, P item := by
  induction fuel with
  | zero =>
      intro input items rest hRead
      cases hRead
  | succ fuel ih =>
      intro input items rest hRead
      rw [Json.parseItems] at hRead
      split at hRead
      · cases hRead
      next item after hItem =>
        have hFirst := hValue hItem
        split at hRead
        next afterComma =>
          split at hRead
          · cases hRead
          next others remaining hOthers =>
            cases hRead
            exact List.forall_mem_cons.mpr
              ⟨hFirst, ih hOthers⟩
        next =>
          cases hRead
          exact List.forall_mem_singleton.mpr hFirst
        next => cases hRead

theorem Yields.parseEntry
    (hValue : Yields value P) :
    Yields (parseEntry value) fun entry => P entry.2 := by
  intro input entry rest hRead
  unfold Json.parseEntry at hRead
  split at hRead
  next afterQuote =>
    split at hRead
    · cases hRead
    next key afterKey hKey =>
      split at hRead
      next afterColon =>
        split at hRead
        · cases hRead
        next item remaining hItem =>
          cases hRead
          exact hValue hItem
      next => cases hRead
  next => cases hRead

theorem Yields.parseEntries
    (hValue : Yields value P)
    (fuel : Nat) :
    Yields (parseEntries value fuel)
      fun entries => ∀ entry ∈ entries, P entry.2 := by
  induction fuel with
  | zero =>
      intro input entries rest hRead
      cases hRead
  | succ fuel ih =>
      intro input entries rest hRead
      rw [Json.parseEntries] at hRead
      split at hRead
      · cases hRead
      next entry after hEntry =>
        have hFirst := hValue.parseEntry hEntry
        split at hRead
        next afterComma =>
          split at hRead
          · cases hRead
          next others remaining hOthers =>
            cases hRead
            exact List.forall_mem_cons.mpr
              ⟨hFirst, ih hOthers⟩
        next =>
          cases hRead
          exact List.forall_mem_singleton.mpr hFirst
        next => cases hRead

end Json

------------------------------------------------------------
-- Values
------------------------------------------------------------

namespace Json

variable {F : Type}
variable {value : Parser (Json F)}
variable {layers : Nat}

theorem yields_parseArray
    (hValue : Yields value (Accepted layers)) :
    Yields (parseArray value) (Accepted (layers + 1)) := by
  intro input item rest hRead
  unfold parseArray at hRead
  split at hRead
  next =>
    cases hRead
    exact accepted_array (List.forall_mem_nil _)
  next =>
    split at hRead
    · cases hRead
    next items after hItems =>
      cases hRead
      exact accepted_array (hValue.parseItems _ hItems)

theorem yields_parseObject
    (hValue : Yields value (Accepted layers)) :
    Yields (parseObject value) (Accepted (layers + 1)) := by
  intro input item rest hRead
  unfold parseObject at hRead
  split at hRead
  next =>
    cases hRead
    exact accepted_object (List.forall_mem_nil _)
  next =>
    split at hRead
    · cases hRead
    next entries after hEntries =>
      cases hRead
      exact accepted_object (hValue.parseEntries _ hEntries)

variable [FloatText F]

theorem numberOf_inRange
    {text : NumberText}
    {number : Json F}
    (hNumber : numberOf text = .ok number) :
    number.depth = 0 ∧ number.InRange := by
  have hFloat :
      floatOf text = .ok number →
        number.depth = 0 ∧ number.InRange := by
    unfold floatOf
    intro hRead
    split at hRead
    next value hValue =>
      cases hRead
      exact ⟨rfl, .float value⟩
    next => cases hRead
  unfold numberOf at hNumber
  simp only at hNumber
  split_ifs at hNumber with hFraction hPlus hMinus
  · exact hFloat hNumber
  · cases hNumber
    exact ⟨rfl, .integer (by omega) (by omega)⟩
  · cases hNumber
    exact ⟨rfl, .integer (by omega) (by omega)⟩
  · exact hFloat hNumber

theorem yields_parseNumber
    (layers : Nat) :
    Yields parseNumber (Accepted (F := F) layers) := by
  intro input item rest hRead
  unfold parseNumber at hRead
  split at hRead
  · cases hRead
  next text after hText =>
    split at hRead
    · cases hRead
    next number hNumber =>
      cases hRead
      rcases numberOf_inRange hNumber with ⟨hFlat, hInRange⟩
      exact ⟨by omega, hInRange⟩

/- `layers` counts what `inner` leaves to be nested. -/
theorem yields_valueOf
    {inner : Option (Parser (Json F))}
    (hInner :
      ∀ value, inner = some value →
        Yields (parseArray value) (Accepted layers) ∧
          Yields (parseObject value) (Accepted layers)) :
    Yields (valueOf inner) (Accepted layers) := by
  intro input item rest hRead
  unfold valueOf at hRead
  split at hRead
  next =>
    cases hRead
    exact ⟨Nat.zero_le _, .null⟩
  next =>
    cases hRead
    exact ⟨Nat.zero_le _, .bool true⟩
  next =>
    cases hRead
    exact ⟨Nat.zero_le _, .bool false⟩
  next =>
    split at hRead
    · cases hRead
    next text after hText =>
      cases hRead
      exact ⟨Nat.zero_le _, .string text⟩
  next =>
    split at hRead
    · cases hRead
    next value => exact (hInner value rfl).1 hRead
  next =>
    split at hRead
    · cases hRead
    next value => exact (hInner value rfl).2 hRead
  next => exact yields_parseNumber layers hRead

/- Every layer that is opened takes one from the limit. -/
theorem yields_parseValue
    (layers : Nat) :
    Yields (parseValue layers)
      (Accepted (F := F) layers) := by
  induction layers with
  | zero =>
      refine yields_valueOf ?_
      intro value hNone
      cases hNone
  | succ layers ih =>
      refine yields_valueOf ?_
      intro value hSome
      cases hSome
      exact ⟨yields_parseArray ih, yields_parseObject ih⟩

theorem parse_accepted
    {input : List Char}
    {item : Json F}
    (hRead : parse layers input = .ok item) :
    item.Accepted layers := by
  unfold parse at hRead
  split at hRead
  · cases hRead
  next value rest hValue =>
    split_ifs at hRead
    cases hRead
    exact yields_parseValue layers hValue

end Json

------------------------------------------------------------
-- Records
------------------------------------------------------------

namespace Serde

variable {F α β ε : Type}

theorem bind_eq_ok
    {first : Except ε α}
    {rest : α → Except ε β}
    {b : β} :
    (first >>= rest) = .ok b ↔
      ∃ a, first = .ok a ∧ rest a = .ok b := by
  cases first with
  | error e => simp [bind, Except.bind]
  | ok a => simp [bind, Except.bind]

theorem map_eq_ok
    {f : α → β}
    {value : Except ε α}
    {b : β} :
    value.map f = .ok b ↔ ∃ a, value = .ok a ∧ f a = b := by
  cases value with
  | error e => simp [Except.map]
  | ok a => simp [Except.map]

theorem exists_of_required
    [Serde F α]
    {fields : Fields F}
    {name : String}
    {a : α}
    (hRead : required fields name = .ok a) :
    ∃ item,
      fields name = .ok (some item) ∧
        deserialize item = .ok a := by
  unfold required at hRead
  split at hRead
  · cases hRead
  · cases hRead
  next item hField => exact ⟨item, hField, hRead⟩

theorem mem_of_fieldsOf
    {entries : List (String × Json F)}
    {name : String}
    {item : Json F}
    (hField : fieldsOf entries name = .ok (some item)) :
    ∃ entry ∈ entries, entry.2 = item := by
  unfold fieldsOf at hField
  split at hField
  · cases hField
  next entry hEntry =>
    cases hField
    have hMem :
        entry ∈ entries.filter fun entry =>
          entry.1 = name := by
      rw [hEntry]
      exact List.mem_singleton_self entry
    exact ⟨entry, List.mem_of_mem_filter hMem, rfl⟩
  · cases hField

theorem exists_of_deserializeUntagged
    {variants : List (Json F → Except Error α)}
    {item : Json F}
    {a : α}
    (hRead : deserializeUntagged variants item = .ok a) :
    ∃ variant ∈ variants, variant item = .ok a := by
  induction variants with
  | nil => cases hRead
  | cons variant variants ih =>
      rw [deserializeUntagged] at hRead
      split at hRead
      next found hFound =>
        cases hRead
        exact ⟨variant, List.mem_cons_self, hFound⟩
      next =>
        rcases ih hRead with ⟨other, hOther, hFound⟩
        exact
          ⟨other, List.mem_cons_of_mem variant hOther, hFound⟩

/- What a record is read from lies one layer further in. -/
theorem Record.accepted_of_deserialize
    [Record F α]
    {layers : Nat}
    {item : Json F}
    {a : α}
    (hAccepted : item.Accepted (layers + 1))
    (hRead : deserialize item = .ok a) :
    ∃ fields : Fields F,
      ofFields fields = .ok a ∧
        ∀ {name inner},
          fields name = .ok (some inner) →
            inner.Accepted layers := by
  rcases hAccepted with ⟨hDepth, hInRange⟩
  change Record.deserialize item = .ok a at hRead
  unfold Record.deserialize at hRead
  split at hRead
  next entries =>
    refine ⟨_, hRead, ?_⟩
    intro name inner hField
    rcases mem_of_fieldsOf hField with ⟨entry, hEntry, rfl⟩
    cases hInRange with
    | object hEntries =>
        refine ⟨?_, hEntries entry hEntry⟩
        have hInner := Json.le_depthEntries hEntry
        rw [Json.depth] at hDepth
        omega
  next items =>
    split_ifs at hRead
    refine ⟨_, hRead, ?_⟩
    intro name inner hField
    rcases mem_of_fieldsOf hField with ⟨entry, hEntry, rfl⟩
    have hItem := (List.of_mem_zip hEntry).2
    cases hInRange with
    | array hItems =>
        refine ⟨?_, hItems entry.2 hItem⟩
        have hInner := Json.le_depthItems hItem
        rw [Json.depth] at hDepth
        omega
  · cases hRead

end Serde
