import Mathlib.Data.Int.Basic

-- Wall clocks of time zones. Instants and offsets are milliseconds. A clock shows minutes,
-- numbered from the first one of 1970, and `offset` says how far it is ahead of UTC at each
-- instant.
namespace CloudOps.WallClock

variable (offset : Int → Int)

def wallMinute (instant : Int) : Int := (instant + offset instant) / 60000

-- The offset that can be read off the clock, which does not show seconds.
def measuredOffset (instant : Int) : Int := wallMinute offset instant * 60000 - instant

-- Measured with the minute taken for UTC, then again at the instant this gives.
def settledOffset (minute : Int) : Int :=
  measuredOffset offset (minute * 60000 - measuredOffset offset (minute * 60000))

def instantOf (minute : Int) : Int := minute * 60000 - settledOffset offset minute

section Fixed

variable {offset} {c : Int} (hfix : ∀ instant, offset instant = c)
include hfix

theorem wallMinute_add_fixed {instant : Int} (hwhole : instant % 60000 = 0) (minutes : Int) :
    wallMinute offset (instant + minutes * 60000) = instant / 60000 + minutes + c / 60000 := by
  simp only [wallMinute, hfix]
  omega

theorem wallMinute_fixed {instant : Int} (hwhole : instant % 60000 = 0) :
    wallMinute offset instant = instant / 60000 + c / 60000 := by
  simpa using wallMinute_add_fixed hfix hwhole 0

theorem measuredOffset_fixed {instant : Int} (hwhole : instant % 60000 = 0) :
    measuredOffset offset instant = c / 60000 * 60000 := by
  simp only [measuredOffset, wallMinute_fixed hfix hwhole]
  omega

theorem settledOffset_fixed (minute : Int) : settledOffset offset minute = c / 60000 * 60000 := by
  have hwhole : minute * 60000 % 60000 = 0 := by omega
  have hfirst := measuredOffset_fixed hfix hwhole
  simp only [settledOffset, hfirst]
  exact measuredOffset_fixed hfix (by omega)

theorem instantOf_fixed (minute : Int) : instantOf offset minute = (minute - c / 60000) * 60000 := by
  simp only [instantOf, settledOffset_fixed hfix]
  omega

-- From the instant of a minute the clock runs with the elapsed time.
theorem wallMinute_instantOf_add_fixed (minute minutes : Int) :
    wallMinute offset (instantOf offset minute + minutes * 60000) = minute + minutes := by
  have hwhole : instantOf offset minute % 60000 = 0 := by
    simp only [instantOf_fixed hfix]
    omega
  rw [wallMinute_add_fixed hfix hwhole]
  simp only [instantOf_fixed hfix]
  omega

-- A whole minute is the instant of the minute shown at it.
theorem instantOf_wallMinute_add_fixed {instant : Int} (hwhole : instant % 60000 = 0) (minutes : Int) :
    instantOf offset (wallMinute offset instant + minutes) = instant + minutes * 60000 := by
  rw [instantOf_fixed hfix, wallMinute_fixed hfix hwhole]
  omega

end Fixed

end CloudOps.WallClock
