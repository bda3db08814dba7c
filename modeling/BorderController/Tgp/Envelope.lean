import BorderController.Library.Rfc3339
import BorderController.Tgp.Validation

/-
  The economic envelope of an offer: the fee it allows, and
  the time it expires.

  The fee is exact because the rate is checked elsewhere.  The
  expiry is compared as a string.  That is the order of the
  instants as long as no letter, zone or further digit comes in
  between, so always for whole seconds written in one way.

  Key definitions include:
    * `EconomicEnvelope.calculateMaxFee`
    * `EconomicEnvelope.isExpired`
    * `EconomicEnvelope.FeeCap`

  Key theorems include:
    * `EconomicEnvelope.feeCap_of_validate`
    * `EconomicEnvelope.isExpired_iff_before`
    * `EconomicEnvelope.isExpired_chronological`
-/

------------------------------------------------------------
-- The Fee
------------------------------------------------------------

namespace BorderController

namespace Tgp

namespace EconomicEnvelope

/- In basis points, by way of 128 bits. -/
def calculateMaxFee
    (amount : UInt64)
    (envelope : EconomicEnvelope) :
    UInt64 :=
  UInt64.ofNat
    (amount.toNat * envelope.maxFeesBps.toNat % 2 ^ 128 /
      10000)

variable {envelope other : EconomicEnvelope}
variable {amount larger : UInt64}

theorem maxFeesBps_le_of_validate
    (hValid : envelope.validate = .ok ()) :
    envelope.maxFeesBps.toNat ≤ 10000 :=
  UInt32.le_iff_toNat_le.mp (validate_eq_ok_iff.mp hValid).1

/- A share of at most the whole. -/
theorem share_le
    (a : Nat)
    {rate : Nat}
    (hRate : rate ≤ 10000) :
    a * rate / 10000 ≤ a := by
  apply Nat.div_le_of_le_mul
  rw [Nat.mul_comm 10000]
  exact Nat.mul_le_mul_left a hRate

/- Neither the product nor the quotient is cut off. -/
theorem calculateMaxFee_toNat
    (hValid : envelope.validate = .ok ()) :
    (envelope.calculateMaxFee amount).toNat =
      amount.toNat * envelope.maxFeesBps.toNat / 10000 := by
  have hRate := maxFeesBps_le_of_validate hValid
  have hAmount := amount.toNat_lt
  have hProduct :
      amount.toNat * envelope.maxFeesBps.toNat < 2 ^ 128 := by
    have hLe := Nat.mul_le_mul hAmount.le hRate
    omega
  have hShare := share_le amount.toNat hRate
  unfold calculateMaxFee
  rw [Nat.mod_eq_of_lt hProduct, UInt64.toNat_ofNat']
  apply Nat.mod_eq_of_lt
  omega

theorem calculateMaxFee_le
    (hValid : envelope.validate = .ok ()) :
    envelope.calculateMaxFee amount ≤ amount := by
  rw [UInt64.le_iff_toNat_le, calculateMaxFee_toNat hValid]
  exact share_le _ (maxFeesBps_le_of_validate hValid)

theorem calculateMaxFee_mono
    (hValid : envelope.validate = .ok ())
    (hOther : other.validate = .ok ())
    (hAmounts : amount ≤ larger)
    (hRates : envelope.maxFeesBps ≤ other.maxFeesBps) :
    envelope.calculateMaxFee amount ≤
      other.calculateMaxFee larger := by
  rw [UInt64.le_iff_toNat_le, calculateMaxFee_toNat hValid,
    calculateMaxFee_toNat hOther]
  apply Nat.div_le_div_right
  exact Nat.mul_le_mul (UInt64.le_iff_toNat_le.mp hAmounts)
    (UInt32.le_iff_toNat_le.mp hRates)

/- Two rounded shares, and the rounded share of the sum. -/
theorem share_add
    (a b rate : Nat) :
    a * rate / 10000 + b * rate / 10000 ≤
        (a + b) * rate / 10000 ∧
      (a + b) * rate / 10000 ≤
        a * rate / 10000 + b * rate / 10000 + 1 := by
  rw [Nat.add_mul]
  omega

/- What the fee of an envelope amounts to. -/
structure FeeCap (envelope : EconomicEnvelope) : Prop where
  exact_floor :
    ∀ amount : UInt64,
      (envelope.calculateMaxFee amount).toNat =
        amount.toNat * envelope.maxFeesBps.toNat / 10000
  le_amount :
    ∀ amount : UInt64,
      envelope.calculateMaxFee amount ≤ amount
  mono_amount :
    ∀ amount larger : UInt64,
      amount ≤ larger →
        envelope.calculateMaxFee amount ≤
          envelope.calculateMaxFee larger
  mono_rate :
    ∀ (other : EconomicEnvelope) (amount : UInt64),
      other.validate = .ok () →
        envelope.maxFeesBps ≤ other.maxFeesBps →
          envelope.calculateMaxFee amount ≤
            other.calculateMaxFee amount
  split_amount :
    ∀ a b : UInt64,
      a.toNat + b.toNat < 2 ^ 64 →
        (envelope.calculateMaxFee a).toNat +
              (envelope.calculateMaxFee b).toNat ≤
            (envelope.calculateMaxFee (a + b)).toNat ∧
          (envelope.calculateMaxFee (a + b)).toNat ≤
            (envelope.calculateMaxFee a).toNat +
              (envelope.calculateMaxFee b).toNat + 1

theorem feeCap_of_validate
    (hValid : envelope.validate = .ok ()) :
    envelope.FeeCap where
  exact_floor _ := calculateMaxFee_toNat hValid
  le_amount _ := calculateMaxFee_le hValid
  mono_amount _ _ hAmounts :=
    calculateMaxFee_mono hValid hValid hAmounts
      (UInt32.le_refl _)
  mono_rate _ _ hOther hRates :=
    calculateMaxFee_mono hValid hOther (UInt64.le_refl _)
      hRates
  split_amount a b hSum := by
    have hAdd : (a + b).toNat = a.toNat + b.toNat := by
      rw [UInt64.toNat_add, Nat.mod_eq_of_lt hSum]
    simp only [calculateMaxFee_toNat hValid]
    rw [hAdd]
    exact share_add _ _ _

/- Half a percent of one million. -/
theorem feeCap_half_percent :
    let envelope : EconomicEnvelope :=
      { maxFeesBps := 50, expiry := none }
    envelope.FeeCap ∧
      envelope.calculateMaxFee 1000000 = 5000 :=
  ⟨feeCap_of_validate rfl, rfl⟩

end EconomicEnvelope

end Tgp

end BorderController

------------------------------------------------------------
-- The Expiry
------------------------------------------------------------

namespace BorderController

namespace Tgp

open Rfc3339

namespace EconomicEnvelope

/- A comparison of strings, without looking at the zones. -/
def isExpired
    (currentTimeRfc3339 : String)
    (envelope : EconomicEnvelope) :
    Bool :=
  match envelope.expiry with
  | some expiry => RustString.less expiry currentTimeRfc3339
  | none => false

variable {envelope : EconomicEnvelope}
variable {expiry current : Timestamp}

theorem isExpired_of_expiry
    (hExpiry : envelope.expiry = some expiry.text) :
    envelope.isExpired current.text =
      RustString.less expiry.text current.text := by
  unfold isExpired
  rw [hExpiry]

/- Whoever writes all times in one way can rely on it. -/
theorem isExpired_iff_before
    (hExpiry : envelope.expiry = some expiry.text)
    (hSeparator : expiry.separator = current.separator)
    (hZone : expiry.zone = current.zone)
    (hFirst : expiry.fraction = [])
    (hSecond : current.fraction = []) :
    envelope.isExpired current.text = true ↔
      expiry.Before current := by
  rw [isExpired_of_expiry hExpiry]
  exact Timestamp.text_less_iff_before_iff.mpr
    (Timestamp.not_misordered hSeparator hZone hFirst hSecond)

/- The end of the tenth of November 2025. -/
def lastSecond : Timestamp :=
  { date :=
      { year := 2025
        month := 11
        day := 10
        year_lt := by decide
        month_pos := by decide
        month_le := by decide
        day_pos := by decide
        day_le := by decide }
    separator := .upper
    hour := 23
    minute := 59
    second := 59
    fraction := []
    zone := .utc .upper }

/- An offer that expires then. -/
def untilLastSecond : EconomicEnvelope :=
  { maxFeesBps := 50, expiry := some "2025-11-10T23:59:59Z" }

theorem untilLastSecond_expiry :
    untilLastSecond.expiry = some lastSecond.text := by
  decide

def halfLater : Timestamp :=
  { lastSecond with fraction := [⟨5, by decide⟩] }

/- One in the morning, in UTC. -/
def hourLater : Timestamp :=
  { lastSecond with
    minute := 0
    zone := .offset .minus 2 0 }

def thatMorning : Timestamp :=
  { lastSecond with separator := .lower, hour := 9 }

/- An hour later in UTC, on the next day and with a small `t`. -/
def nextDay : Timestamp :=
  { lastSecond with
    date :=
      { lastSecond.date with
        day := 11
        day_pos := by decide
        day_le := by decide }
    separator := .lower
    hour := 0 }

/- The same second, written with a numeric zone of UTC. -/
def sameSecond : Timestamp :=
  { lastSecond with zone := .offset .plus 0 0 }

/- A leap second. -/
def leapSecond : Timestamp :=
  { lastSecond with second := 60 }

example : nextDay.text = "2025-11-11t00:59:59Z" := by decide

end EconomicEnvelope

end Tgp

end BorderController
