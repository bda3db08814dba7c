import BorderController.Engine.Operations
import Mathlib.Algebra.Group.Nat.Defs

/-
  The block height after time has been advanced step by step.

  Each step is divided by the block interval on its own, and
  what a division leaves over is lost.

  Key definitions include:
    * `CoreProverEngine.advanceAll`
    * `total`, `blocks`, `leftover`
    * `ByTotal`

  Key theorems include:
    * `advanceAll_spec`
    * `total_div_eq_blocks_iff`
    * `byTotal_iff`
-/

------------------------------------------------------------
-- Steps
------------------------------------------------------------

namespace BorderController

namespace Engine

/- `advance_time`, once for each step. -/
def CoreProverEngine.advanceAll :
    List UInt64 → CoreProverEngine → Option CoreProverEngine
  | [], engine => some engine
  | secs :: steps, engine =>
      (engine.advanceTime secs).bind (advanceAll steps)

/- The seconds of all steps. -/
def total (steps : List UInt64) : Nat :=
  (steps.map UInt64.toNat).sum

/- The whole block intervals in each step, added up. -/
def blocks (interval : UInt64) (steps : List UInt64) : Nat :=
  (steps.map fun secs => secs.toNat / interval.toNat).sum

/- The seconds that each division leaves over, added up. -/
def leftover (interval : UInt64) (steps : List UInt64) : Nat :=
  (steps.map fun secs => secs.toNat % interval.toNat).sum

/- None of the sums that the steps make overflows. -/
structure SumsFit
    (interval : UInt64)
    (steps : List UInt64)
    (engine : CoreProverEngine) :
    Prop where
  mono : engine.currentMono.toNat + total steps < 2 ^ 64
  unix : engine.currentUnix.toNat + total steps < 2 ^ 64
  height :
    engine.currentBlockHeight.toNat + blocks interval steps <
      2 ^ 64

/-
  After the steps, a new engine shows what the total of the
  seconds says, and is as if advanced once by the total.
-/
def ByTotal
    (chainId interval genesis : UInt64)
    (steps : List UInt64) :
    Prop :=
  ∃ engine,
    (CoreProverEngine.new chainId interval genesis).advanceAll
        steps = some engine ∧
      engine.currentMono.toNat = total steps ∧
      engine.currentUnix.toNat = genesis.toNat + total steps ∧
      engine.currentBlockHeight.toNat =
        1 + total steps / interval.toNat ∧
      (CoreProverEngine.new chainId interval
          genesis).advanceTime (UInt64.ofNat (total steps)) =
        some engine

end Engine

end BorderController

------------------------------------------------------------
-- What the Steps Add Up To
------------------------------------------------------------

namespace BorderController

namespace Engine

variable {interval secs : UInt64}
variable {steps : List UInt64}

@[simp] theorem total_cons :
    total (secs :: steps) = secs.toNat + total steps := rfl

@[simp] theorem blocks_cons :
    blocks interval (secs :: steps) =
      secs.toNat / interval.toNat + blocks interval steps :=
  rfl

@[simp] theorem leftover_cons :
    leftover interval (secs :: steps) =
      secs.toNat % interval.toNat + leftover interval steps :=
  rfl

theorem total_eq :
    total steps =
      interval.toNat * blocks interval steps +
        leftover interval steps := by
  induction steps with
  | nil => rfl
  | cons secs steps ih =>
      have hSecs := Nat.div_add_mod secs.toNat interval.toNat
      rw [total_cons, blocks_cons, leftover_cons,
        Nat.mul_add, ih]
      omega

/- Nothing is lost if less than one block is left over. -/
theorem total_div_eq_blocks_iff
    (hInterval : 0 < interval) :
    total steps / interval.toNat = blocks interval steps ↔
      leftover interval steps < interval.toNat := by
  have hPos : 0 < interval.toNat := by
    simpa using UInt64.lt_iff_toNat_lt.mp hInterval
  rw [@total_eq interval steps,
    Nat.mul_add_div hPos, Nat.add_eq_left,
    Nat.div_eq_zero_iff_lt hPos]

end Engine

end BorderController

------------------------------------------------------------
-- Advancing Step by Step
------------------------------------------------------------

namespace BorderController

namespace Engine

variable {interval : UInt64}
variable {engine : CoreProverEngine}
variable {steps : List UInt64}

/- The engine after one step. -/
def CoreProverEngine.later
    (secs : UInt64)
    (engine : CoreProverEngine) :
    CoreProverEngine :=
  { engine with
    currentMono := engine.currentMono + secs
    currentUnix := engine.currentUnix + secs
    currentBlockHeight :=
      engine.currentBlockHeight +
        secs / engine.blockIntervalSecs }

theorem advanceTime_eq
    (secs : UInt64)
    (hInterval : 0 < engine.blockIntervalSecs) :
    engine.advanceTime secs = some (engine.later secs) := by
  unfold CoreProverEngine.advanceTime
  rw [if_neg]
  · rfl
  · intro hZero
    rw [hZero] at hInterval
    exact absurd hInterval (UInt64.lt_irrefl 0)

private theorem toNat_add_of_fits
    {a b : UInt64}
    (hFits : a.toNat + b.toNat < 2 ^ 64) :
    (a + b).toNat = a.toNat + b.toNat := by
  rw [UInt64.toNat_add, Nat.mod_eq_of_lt hFits]

/-
  The steps together: the clocks move by the total, and the
  height by the blocks of the steps.
-/
theorem advanceAll_spec
    (hInterval : 0 < engine.blockIntervalSecs)
    (hFits : SumsFit engine.blockIntervalSecs steps engine) :
    ∃ mono unix height,
      engine.advanceAll steps =
          some
            { engine with
              currentMono := mono
              currentUnix := unix
              currentBlockHeight := height } ∧
        mono.toNat = engine.currentMono.toNat + total steps ∧
        unix.toNat = engine.currentUnix.toNat + total steps ∧
        height.toNat =
          engine.currentBlockHeight.toNat +
            blocks engine.blockIntervalSecs steps := by
  induction steps generalizing engine with
  | nil => exact ⟨_, _, _, rfl, rfl, rfl, rfl⟩
  | cons secs steps ih =>
      rcases hFits with ⟨hMono, hUnix, hHeight⟩
      rw [total_cons] at hMono hUnix
      rw [blocks_cons] at hHeight
      have hMonoStep :
          (engine.later secs).currentMono.toNat =
            engine.currentMono.toNat + secs.toNat :=
        toNat_add_of_fits (by omega)
      have hUnixStep :
          (engine.later secs).currentUnix.toNat =
            engine.currentUnix.toNat + secs.toNat :=
        toNat_add_of_fits (by omega)
      have hHeightStep :
          (engine.later secs).currentBlockHeight.toNat =
            engine.currentBlockHeight.toNat +
              secs.toNat / engine.blockIntervalSecs.toNat := by
        rw [← UInt64.toNat_div]
        apply toNat_add_of_fits
        rw [UInt64.toNat_div]
        omega
      have hLaterInterval :
          0 < (engine.later secs).blockIntervalSecs :=
        hInterval
      have hLaterFits :
          SumsFit (engine.later secs).blockIntervalSecs steps
            (engine.later secs) :=
        { mono := by
            rw [hMonoStep]
            omega
          unix := by
            rw [hUnixStep]
            omega
          height := by
            rw [hHeightStep]
            exact lt_of_eq_of_lt (Nat.add_assoc _ _ _) hHeight }
      rcases ih hLaterInterval hLaterFits with
        ⟨mono, unix, height, hRest, hMono', hUnix', hHeight'⟩
      refine ⟨mono, unix, height, ?_, ?_, ?_, ?_⟩
      · unfold CoreProverEngine.advanceAll
        rw [advanceTime_eq secs hInterval]
        exact hRest
      · rw [hMono', hMonoStep, total_cons, Nat.add_assoc]
      · rw [hUnix', hUnixStep, total_cons, Nat.add_assoc]
      · rw [hHeight', hHeightStep, blocks_cons, Nat.add_assoc]
        rfl

/-
  A new engine that is advanced step by step shows what the
  total says, exactly when the divisions leave over less than
  one block.
-/
theorem byTotal_iff
    {chainId genesis : UInt64}
    (hInterval : 0 < interval)
    (hFits :
      SumsFit interval steps
        (.new chainId interval genesis)) :
    ByTotal chainId interval genesis steps ↔
      leftover interval steps < interval.toNat := by
  have hInterval' :
      0 < (CoreProverEngine.new chainId interval
        genesis).blockIntervalSecs := hInterval
  rcases advanceAll_spec hInterval' hFits with
    ⟨mono, unix, height, hAll, hMono, hUnix, hHeight⟩
  have hTotal :
      (UInt64.ofNat (total steps)).toNat = total steps := by
    apply UInt64.toNat_ofNat_of_lt'
    have hFit := hFits.mono
    simp only [CoreProverEngine.new, UInt64.toNat_zero,
      Nat.zero_add] at hFit
    exact hFit
  simp only [CoreProverEngine.new, UInt64.toNat_zero,
    UInt64.toNat_one, Nat.zero_add] at hMono hUnix hHeight
  rw [← total_div_eq_blocks_iff hInterval]
  constructor
  · rintro ⟨engine, hAll', _, _, hHeight', _⟩
    rw [hAll] at hAll'
    cases hAll'
    simp only at hHeight'
    omega
  · intro hBlocks
    refine ⟨_, hAll, hMono, hUnix, ?_, ?_⟩
    · simp only [hHeight, hBlocks]
    · have hMonoOnce :
          mono = 0 + UInt64.ofNat (total steps) := by
        rw [← UInt64.toNat_inj, UInt64.zero_add, hTotal]
        exact hMono
      have hUnixOnce :
          unix = genesis + UInt64.ofNat (total steps) := by
        rw [← UInt64.toNat_inj, hUnix, toNat_add_of_fits] <;>
          rw [hTotal]
        exact hFits.unix
      have hHeightOnce :
          height =
            1 + UInt64.ofNat (total steps) / interval := by
        have hFit := hFits.height
        simp only [CoreProverEngine.new, UInt64.toNat_one]
          at hFit
        rw [← UInt64.toNat_inj, hHeight, toNat_add_of_fits] <;>
          rw [UInt64.toNat_div, hTotal, hBlocks]
        · rfl
        · exact hFit
      rw [advanceTime_eq _ hInterval', hMonoOnce, hUnixOnce,
        hHeightOnce]
      rfl

end Engine

end BorderController

------------------------------------------------------------
-- Half a Block, Twice
------------------------------------------------------------

namespace BorderController

namespace Engine

/- Two steps of six seconds make no block of twelve. -/
theorem halfBlocks_not_byTotal :
    ¬ ByTotal 1 12 1700000000 [6, 6] := by
  rintro ⟨engine, hAll, _, _, hHeight, _⟩
  have hOne :
      ((CoreProverEngine.new 1 12 1700000000).advanceAll
          [6, 6]).map
        CoreProverEngine.currentBlockHeight = some 1 := by
    decide +kernel
  rw [hAll, Option.map_some, Option.some.injEq] at hOne
  rw [hOne] at hHeight
  contradiction

theorem wholeBlocks_byTotal :
    ByTotal 1 12 1700000000 [6, 600, 5] :=
  (byTotal_iff (by decide)
    { mono := by decide
      unix := by decide
      height := by decide }).mpr (by decide)

end Engine

end BorderController
