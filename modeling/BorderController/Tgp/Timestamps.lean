import BorderController.Tgp.Validation
import BorderController.Txip.Types

/-
  Three checks of time stamps, and the time zone they ask for.

  Two of them look for a sign anywhere, and find the hyphens
  of the date.  The third counts the hyphens.

  Key definitions include:
    * `validateRfc3339Format`
    * `Zoned`, `HasZone`
    * `DateForm`
    * `SignOnlyInDate`

  Key theorems include:
    * `zoneRequired_iff`
-/

------------------------------------------------------------
-- The Third Check
------------------------------------------------------------

namespace BorderController

namespace Tgp

open EarlyReturn

/- More than the two hyphens of the date are a time zone. -/
def validateRfc3339Format
    (timestamp fieldName : String) :
    Except String Unit := do
  validateNonEmpty timestamp fieldName
  refuseIf (RustString.contains 'T' timestamp = false)
    (fieldName ++ " must be in RFC3339 format " ++
      "(e.g., 2025-11-10T23:59:59Z): " ++ timestamp)
  refuseIf
    (RustString.endsWith 'Z' timestamp = false ∧
      RustString.contains '+' timestamp = false ∧
      ¬ 2 < timestamp.toList.count '-')
    (fieldName ++ " must include timezone " ++
      "(Z or offset like +00:00): " ++ timestamp)

end Tgp

end BorderController

------------------------------------------------------------
-- What the Checks Accept
------------------------------------------------------------

namespace BorderController

namespace Tgp

open EarlyReturn

/- A text that ends with the zone `Z` or has a sign. -/
def Zoned (text : List Char) : Prop :=
  text.getLast? = some 'Z' ∨ '+' ∈ text ∨ '-' ∈ text

/- The parts before and after the first `T`. -/
structure SplitsAtT
    (s : String)
    (date rest : List Char) :
    Prop where
  parts : s.toList = date ++ 'T' :: rest
  first : 'T' ∉ date

/- A `T`, and a time zone after the first one. -/
def HasZone (s : String) : Prop :=
  ∃ date rest, SplitsAtT s date rest ∧ Zoned rest

/- Year, month and day, joined by hyphens, before a `T`. -/
def DateForm (s : String) : Prop :=
  ∃ year month day rest : List Char,
    (∀ c ∈ year ++ month ++ day, c.isDigit = true) ∧
      s.toList =
        (year ++ '-' :: (month ++ '-' :: day)) ++ 'T' :: rest

/- No time zone after the `T`, but a sign before it. -/
def SignOnlyInDate (s : String) : Prop :=
  ∃ date rest, SplitsAtT s date rest ∧ ¬ Zoned rest ∧
    ('+' ∈ date ∨ '-' ∈ date)

variable {s fieldName : String}
variable {mono unix : UInt64}
variable {maxFeesBps : UInt32}
variable {date rest : List Char}

def IsoAccepts (mono unix : UInt64) (s : String) : Prop :=
  Txip.TripleTimestamp.validateIso { mono, unix, iso := s } =
    .ok ()

def ExpiryAccepts
    (maxFeesBps : UInt32)
    (s : String) :
    Prop :=
  EconomicEnvelope.validate
      { maxFeesBps, expiry := some s } =
    .ok ()

def FormatAccepts (fieldName s : String) : Prop :=
  validateRfc3339Format s fieldName = .ok ()

theorem isoAccepts_iff :
    IsoAccepts mono unix s ↔
      'T' ∈ s.toList ∧ Zoned s.toList := by
  unfold IsoAccepts Txip.TripleTimestamp.validateIso Zoned
  by_cases hT : 'T' ∈ s.toList
  · simp [hT]
    tauto
  · simp [hT]

theorem expiryAccepts_iff
    (hFees : maxFeesBps ≤ 10000) :
    ExpiryAccepts maxFeesBps s ↔
      'T' ∈ s.toList ∧ Zoned s.toList := by
  unfold ExpiryAccepts
  rw [EconomicEnvelope.validate_eq_ok_iff]
  simp only [hFees, Option.some.injEq, forall_eq',
    true_and]
  simp [EndsInZ, HasSign, Zoned, RustString.contains,
    RustString.endsWith]
  tauto

theorem formatAccepts_iff :
    FormatAccepts fieldName s ↔
      'T' ∈ s.toList ∧
        (s.toList.getLast? = some 'Z' ∨ '+' ∈ s.toList ∨
          2 < s.toList.count '-') := by
  have hEmpty : 'T' ∈ s.toList → s ≠ "" := by
    rintro hT rfl
    contradiction
  unfold FormatAccepts validateRfc3339Format
  simp [RustString.contains, RustString.endsWith]
  tauto

theorem zoned_append_iff :
    Zoned (date ++ 'T' :: rest) ↔
      Zoned rest ∨ '+' ∈ date ∨ '-' ∈ date := by
  have hLast : (date ++ 'T' :: rest).getLast? = some 'Z' ↔
      rest.getLast? = some 'Z' := by
    cases rest with
    | nil => simp
    | cons c rest => simp [List.getLast?_cons]
  unfold Zoned
  rw [hLast]
  simp
  tauto

end Tgp

end BorderController

------------------------------------------------------------
-- When a Zone Is Required
------------------------------------------------------------

namespace BorderController

namespace Tgp

variable {s : String}
variable {date other rest : List Char}

theorem exists_splitsAtT
    (hT : 'T' ∈ s.toList) :
    ∃ date rest, SplitsAtT s date rest := by
  rcases List.eq_append_cons_of_mem hT with
    ⟨date, rest, hParts, hFirst⟩
  exact ⟨date, rest, hParts, hFirst⟩

theorem SplitsAtT.takeWhile_eq
    (hSplit : SplitsAtT s date rest) :
    s.toList.takeWhile (· ≠ 'T') = date := by
  have hDate : ∀ c ∈ date, decide (c ≠ 'T') = true := by
    intro c hMem
    simp only [decide_eq_true_eq]
    rintro rfl
    exact hSplit.first hMem
  rw [hSplit.parts, List.takeWhile_append_of_pos hDate]
  simp

/- There is only one first `T`. -/
theorem SplitsAtT.zoned_iff_hasZone
    (hSplit : SplitsAtT s date rest) :
    Zoned rest ↔ HasZone s := by
  constructor
  · intro hZoned
    exact ⟨date, rest, hSplit, hZoned⟩
  · rintro ⟨other, after, hOther, hZoned⟩
    have hDates : other = date :=
      hOther.takeWhile_eq.symm.trans hSplit.takeWhile_eq
    have hParts := hOther.parts.symm.trans hSplit.parts
    rw [hDates] at hParts
    have hRests :=
      List.tail_eq_of_cons_eq (List.append_cancel_left hParts)
    rw [← hRests]
    exact hZoned

/- Digits and two hyphens: no `T`, and no third hyphen. -/
theorem splitsAtT_of_dateForm
    (hForm : DateForm s) :
    ∃ date rest, SplitsAtT s date rest ∧ '-' ∈ date ∧
      date.count '-' = 2 := by
  rcases hForm with ⟨year, month, day, rest, hDigits, hText⟩
  have hNotT : ∀ part : List Char,
      (∀ c ∈ part, c.isDigit = true) → 'T' ∉ part :=
    fun part hPart hT => absurd (hPart 'T' hT) (by decide)
  have hNoHyphen : ∀ part : List Char,
      (∀ c ∈ part, c.isDigit = true) →
        part.count '-' = 0 := by
    intro part hPart
    apply List.count_eq_zero.mpr
    intro hHyphen
    exact absurd (hPart '-' hHyphen) (by decide)
  simp only [List.mem_append, or_imp, forall_and] at hDigits
  rcases hDigits with ⟨⟨hYear, hMonth⟩, hDay⟩
  refine ⟨_, rest, ⟨hText, ?_⟩, by simp, ?_⟩
  · simp [hNotT year hYear, hNotT month hMonth,
      hNotT day hDay]
  · simp [hNoHyphen year hYear, hNoHyphen month hMonth,
      hNoHyphen day hDay]

/- What the checks promise about a text: whichever accepts it,
   it has a zone, and they agree after a date. -/
def ZoneRequired
    (mono unix : UInt64)
    (maxFeesBps : UInt32)
    (fieldName s : String) :
    Prop :=
  (IsoAccepts mono unix s ∨ ExpiryAccepts maxFeesBps s ∨
      FormatAccepts fieldName s →
    HasZone s) ∧
  (DateForm s →
    (IsoAccepts mono unix s ↔ ExpiryAccepts maxFeesBps s) ∧
      (ExpiryAccepts maxFeesBps s ↔
        FormatAccepts fieldName s))

variable {fieldName : String}
variable {mono unix : UInt64}
variable {maxFeesBps : UInt32}

/- The third check asks for at least what the others do. -/
theorem formatAccepts_imp
    (hFormat : FormatAccepts fieldName s) :
    'T' ∈ s.toList ∧ Zoned s.toList := by
  rcases formatAccepts_iff.mp hFormat with
    ⟨hT, hZ | hPlus | hHyphens⟩
  · exact ⟨hT, Or.inl hZ⟩
  · exact ⟨hT, Or.inr (Or.inl hPlus)⟩
  · refine ⟨hT, Or.inr (Or.inr ?_)⟩
    apply List.count_pos_iff.mp
    omega

theorem hasZone_of_zoned
    (hInDate : ¬ SignOnlyInDate s)
    (hT : 'T' ∈ s.toList)
    (hZoned : Zoned s.toList) :
    HasZone s := by
  rcases exists_splitsAtT hT with ⟨date, rest, hSplit⟩
  rw [hSplit.parts] at hZoned
  rw [← hSplit.zoned_iff_hasZone]
  by_contra hRest
  rcases zoned_append_iff.mp hZoned with hAfter | hSign
  · exact hRest hAfter
  · exact hInDate ⟨date, rest, hSplit, hRest, hSign⟩

/- After a date, a zone is what the third check looks for. -/
theorem formatAccepts_of_hasZone
    (hForm : DateForm s)
    (hZone : HasZone s) :
    FormatAccepts fieldName s := by
  rcases splitsAtT_of_dateForm hForm with
    ⟨date, rest, hSplit, -, hCount⟩
  have hRest := hSplit.zoned_iff_hasZone.mpr hZone
  rw [formatAccepts_iff, hSplit.parts]
  refine ⟨by simp, ?_⟩
  rcases hRest with hZ | hPlus | hMinus
  · left
    rw [List.getLast?_append, List.getLast?_cons, hZ]
    rfl
  · exact Or.inr (Or.inl (by simp [hPlus]))
  · right
    right
    have hPos := List.count_pos_iff.mpr hMinus
    rw [List.count_append, hCount, List.count_cons]
    omega

theorem zoneRequired_iff
    (mono unix : UInt64)
    (fieldName s : String)
    (hFees : maxFeesBps ≤ 10000) :
    ZoneRequired mono unix maxFeesBps fieldName s ↔
      ¬ SignOnlyInDate s := by
  unfold ZoneRequired
  rw [isoAccepts_iff, expiryAccepts_iff hFees]
  constructor
  · rintro ⟨hSound, -⟩ ⟨date, rest, hSplit, hRest, hSign⟩
    have hZoned : 'T' ∈ s.toList ∧ Zoned s.toList := by
      rw [hSplit.parts]
      exact ⟨by simp, zoned_append_iff.mpr (Or.inr hSign)⟩
    exact hRest
      (hSplit.zoned_iff_hasZone.mpr (hSound (Or.inl hZoned)))
  · intro hInDate
    constructor
    · rintro (hIso | hExpiry | hFormat)
      · exact hasZone_of_zoned hInDate hIso.1 hIso.2
      · exact hasZone_of_zoned hInDate hExpiry.1 hExpiry.2
      · have hZoned := formatAccepts_imp hFormat
        exact hasZone_of_zoned hInDate hZoned.1 hZoned.2
    · intro hForm
      refine ⟨Iff.rfl, ?_, formatAccepts_imp⟩
      rintro ⟨hT, hZoned⟩
      exact formatAccepts_of_hasZone hForm
        (hasZone_of_zoned hInDate hT hZoned)

/- A fee of half a percent, and a time stamp in UTC. -/
theorem zoneRequired_utc :
    ZoneRequired 1000 1731600000 50 "expiry"
      "2024-11-14T12:00:00Z" := by
  refine (zoneRequired_iff 1000 1731600000 "expiry"
    "2024-11-14T12:00:00Z" (by decide)).mpr ?_
  rintro ⟨date, rest, hSplit, hRest, _⟩
  have hUtc : SplitsAtT "2024-11-14T12:00:00Z"
      "2024-11-14".toList "12:00:00Z".toList :=
    ⟨by decide, by decide⟩
  exact hRest (hSplit.zoned_iff_hasZone.mpr
    ⟨_, _, hUtc, Or.inl (by decide)⟩)

/- Without a zone, only the third check refuses it. -/
theorem not_zoneRequired_local :
    IsoAccepts 1000 1731600000 "2024-11-14T12:00:00" ∧
      ExpiryAccepts 50 "2024-11-14T12:00:00" ∧
      ¬ FormatAccepts "expiry" "2024-11-14T12:00:00" ∧
      ¬ ZoneRequired 1000 1731600000 50 "expiry"
        "2024-11-14T12:00:00" := by
  have hIso : IsoAccepts 1000 1731600000
      "2024-11-14T12:00:00" := rfl
  refine ⟨hIso, rfl, ?_, ?_⟩
  · intro hFormat
    exact absurd (formatAccepts_iff.mp hFormat) (by decide)
  · rintro ⟨hSound, -⟩
    rcases hSound (Or.inl hIso) with
      ⟨date, rest, hSplit, hZoned⟩
    have hLocal : SplitsAtT "2024-11-14T12:00:00"
        "2024-11-14".toList "12:00:00".toList :=
      ⟨by decide, by decide⟩
    have hRest :=
      hLocal.zoned_iff_hasZone.mpr ⟨_, _, hSplit, hZoned⟩
    rcases hRest with hZ | hPlus | hMinus
    · exact absurd hZ (by decide)
    · exact absurd hPlus (by decide)
    · exact absurd hMinus (by decide)

end Tgp

end BorderController
