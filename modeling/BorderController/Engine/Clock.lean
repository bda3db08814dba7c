import Mathlib.Data.UInt

/-
  The triple clock of the settlement engine: monotonic
  seconds, Unix seconds and RFC 3339 text.

  Key definitions include:
    * `Chrono`
    * `iso8601`
    * `TimeTruth`
    * `utcChrono`
-/

------------------------------------------------------------
-- The Triple Clock
------------------------------------------------------------

namespace BorderController

namespace Engine

/-
  What the engine uses of the `chrono` crate: building a date
  from a Unix timestamp, which fails out of range, and
  rendering it as RFC 3339 text in UTC.
-/
class Chrono where
  NaiveDateTime : Type
  fromTimestampOpt : Int64 → UInt32 → Option NaiveDateTime
  toRfc3339 : NaiveDateTime → String
  epoch_isSome : (fromTimestampOpt 0 0).isSome

variable [Chrono]

def iso8601 (unix : UInt64) : String :=
  let epoch :=
    (Chrono.fromTimestampOpt 0 0).get Chrono.epoch_isSome
  let dt :=
    (Chrono.fromTimestampOpt unix.toInt64 0).getD epoch
  Chrono.toRfc3339 dt

structure TimeTruth where
  mono : UInt64
  unix : UInt64
  iso : String
deriving DecidableEq, Repr

namespace TimeTruth

def new (mono unix : UInt64) : TimeTruth :=
  { mono, unix, iso := iso8601 unix }

end TimeTruth

end Engine

end BorderController

------------------------------------------------------------
-- A Calendar to Evaluate With
------------------------------------------------------------

namespace BorderController

namespace Engine

/- A number in decimal, padded with zeros to `width`. -/
def padded (width n : Nat) : String :=
  let digits := toString n
  String.ofList
    (List.replicate (width - digits.length) '0') ++ digits

/-
  RFC 3339 text of a Unix timestamp in the years 1970 to 9999,
  by counting days from 1 March of year 0.
-/
def rfc3339OfUnix (unix : Nat) : String :=
  let z := unix / 86400 + 719468
  let era := z / 146097
  let doe := z % 146097
  let yoe :=
    (doe - doe / 1460 + doe / 36524 - doe / 146096) / 365
  let doy := doe - (365 * yoe + yoe / 4 - yoe / 100)
  let mp := (5 * doy + 2) / 153
  let day := doy - (153 * mp + 2) / 5 + 1
  let month := if mp < 10 then mp + 3 else mp - 9
  let year :=
    yoe + era * 400 + (if month ≤ 2 then 1 else 0)
  let sod := unix % 86400
  padded 4 year ++ "-" ++ padded 2 month ++ "-" ++
    padded 2 day ++ "T" ++ padded 2 (sod / 3600) ++ ":" ++
    padded 2 (sod / 60 % 60) ++ ":" ++
    padded 2 (sod % 60) ++ "+00:00"

/-
  A calendar that renders the years 1970 to 9999 and rejects
  every other timestamp.
-/
@[reducible] def utcChrono : Chrono where
  NaiveDateTime := Nat
  fromTimestampOpt secs _ :=
    let unix := secs.toInt
    if 0 ≤ unix ∧ unix < 253402300800 then
      some unix.toNat
    else
      none
  toRfc3339 := rfc3339OfUnix
  epoch_isSome := by decide

example :
    @iso8601 utcChrono 1700000000 =
      "2023-11-14T22:13:20+00:00" := by
  decide +kernel

end Engine

end BorderController
