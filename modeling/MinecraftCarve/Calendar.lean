import MinecraftCarve.ScanReport
import MinecraftCarve.SectorTests
import MinecraftCarve.Mcarve

/-! The calendar behind `current_time` and the default window. Breaking a time down and
putting it together again is the identity in a zone without daylight saving, so that the
default window runs from the start of 2008 to the present second. -/

namespace MinecraftCarve.Calendar
open SectorWords Sector Time Report ScanReport

/-- The year of a day within an era of 400 years, as `civilFromDays` computes it. -/
def yearOfEra (dayOfEra : Int) : Int :=
  (dayOfEra - dayOfEra / 1460 + dayOfEra / 36524 - dayOfEra / 146096) / 365

def dayOfYear (dayOfEra : Int) : Int :=
  dayOfEra - (365 * yearOfEra dayOfEra + yearOfEra dayOfEra / 4 - yearOfEra dayOfEra / 100)

section
variable {dayOfEra : Int} (low : 0 ≤ dayOfEra) (high : dayOfEra < 146097)
include low high

theorem yearOfEra_bounds : 0 ≤ yearOfEra dayOfEra ∧ yearOfEra dayOfEra < 400 := by
  unfold yearOfEra
  omega

/-- A year has days from 0 to 365, by the century and by the day that ends an era. -/
theorem dayOfYear_bounds : 0 ≤ dayOfYear dayOfEra ∧ dayOfYear dayOfEra ≤ 365 := by
  obtain ⟨first, last⟩ := yearOfEra_bounds low high
  have century : dayOfEra / 36524 = 0 ∨ dayOfEra / 36524 = 1 ∨ dayOfEra / 36524 = 2 ∨
      dayOfEra / 36524 = 3 ∨ dayOfEra / 36524 = 4 := by omega
  have ending : dayOfEra / 146096 = 0 ∨ dayOfEra / 146096 = 1 := by omega
  have yearCentury : yearOfEra dayOfEra / 100 = 0 ∨ yearOfEra dayOfEra / 100 = 1 ∨
      yearOfEra dayOfEra / 100 = 2 ∨ yearOfEra dayOfEra / 100 = 3 := by omega
  have year : yearOfEra dayOfEra =
    (dayOfEra - dayOfEra / 1460 + dayOfEra / 36524 - dayOfEra / 146096) / 365 := rfl
  unfold dayOfYear
  generalize yearOfEra dayOfEra = year at *
  rcases century with c | c | c | c | c <;> rcases ending with e | e <;>
    rcases yearCentury with y | y | y | y <;> rw [c, e] at year <;> rw [y] <;> omega

end

/-- The month of a year that begins in March. -/
def monthOf (shifted : Int) : Int := if shifted < 10 then shifted + 3 else shifted - 9

/-- January and February belong to a year that began in the year before. -/
def yearOf (era year shifted : Int) : Int :=
  year + era * 400 + (if monthOf shifted ≤ 2 then 1 else 0)

theorem daysFromCivil_parts {era year shifted : Int} (first : 0 ≤ year) (last : year < 400)
    (march : 0 ≤ shifted) (february : shifted ≤ 11) :
    daysFromCivil (yearOf era year shifted) (monthOf shifted) =
      era * 146097 + (year * 365 + year / 4 - year / 100 + (153 * shifted + 2) / 5) - 719468 := by
  have eras : (year + era * 400) / 400 = era := by omega
  have years : year + era * 400 - era * 400 = year := by omega
  by_cases early : shifted < 10
  · have month : monthOf shifted = shifted + 3 := if_pos early
    have late : ¬shifted + 3 ≤ 2 := by omega
    have shift : shifted + 3 - 3 = shifted := by omega
    simp only [daysFromCivil, yearOf, month, if_neg late, Int.add_zero, eras, years, shift]
  · have month : monthOf shifted = shifted - 9 := if_neg early
    have winter : shifted - 9 ≤ 2 := by omega
    have shift : shifted - 9 + 9 = shifted := by omega
    have before : year + era * 400 + 1 - 1 = year + era * 400 := by omega
    simp only [daysFromCivil, yearOf, month, if_pos winter, before, eras, years, shift]

/-- The parts of a date, by the era of its day. -/
theorem civilFromDays_parts {days era dayOfEra shifted : Int}
    (eraOf : era = (days + 719468) / 146097) (dayOf : dayOfEra = days + 719468 - era * 146097)
    (shiftedOf : shifted = (5 * dayOfYear dayOfEra + 2) / 153) :
    civilFromDays days =
      { mday := dayOfYear dayOfEra - (153 * shifted + 2) / 5 + 1
        mon := monthOf shifted - 1
        year := yearOf era (yearOfEra dayOfEra) shifted - 1900 } := by
  subst shiftedOf dayOf eraOf
  rfl

theorem civil_round_trip (days : Int) :
    daysFromCivil ((civilFromDays days).year + 1900) ((civilFromDays days).mon + 1) +
      (civilFromDays days).mday - 1 = days := by
  obtain ⟨era, eraOf⟩ : ∃ era, era = (days + 719468) / 146097 := ⟨_, rfl⟩
  obtain ⟨dayOfEra, dayOf⟩ : ∃ day, day = days + 719468 - era * 146097 := ⟨_, rfl⟩
  obtain ⟨shifted, shiftedOf⟩ : ∃ month, month = (5 * dayOfYear dayOfEra + 2) / 153 := ⟨_, rfl⟩
  have low : 0 ≤ dayOfEra := by omega
  have high : dayOfEra < 146097 := by omega
  obtain ⟨first, last⟩ := yearOfEra_bounds low high
  obtain ⟨firstDay, lastDay⟩ := dayOfYear_bounds low high
  have day : dayOfYear dayOfEra = dayOfEra -
    (365 * yearOfEra dayOfEra + yearOfEra dayOfEra / 4 - yearOfEra dayOfEra / 100) := rfl
  rw [civilFromDays_parts eraOf dayOf shiftedOf]
  simp only [Int.sub_add_cancel]
  rw [daysFromCivil_parts first last (by omega) (by omega)]
  omega

/-- In a zone at a fixed distance from UTC the present time survives `localtime` and
`mktime`. -/
theorem currentTime_fixedZone (zone now : Int) : currentTime (fixedZone zone now) = now := by
  have days := civil_round_trip ((now + zone) / 86400)
  change (daysFromCivil ((civilFromDays ((now + zone) / 86400)).year + 1900)
      ((civilFromDays ((now + zone) / 86400)).mon + 1) +
      (civilFromDays ((now + zone) / 86400)).mday - 1) * 86400 +
    (now + zone) % 86400 / 3600 * 3600 + (now + zone) % 86400 / 60 % 60 * 60 +
    (now + zone) % 86400 % 60 - zone = now
  rw [days]
  omega

/-- Midnight at the start of 2008, in seconds of the zone. -/
def newYear2008 (zone : Int) : Int := 1199145600 - zone

theorem defaultConfig_fixedZone {zone now : Int} (west : -86400 ≤ zone) (east : zone ≤ 86400)
    (started : 0 ≤ now) (representable : now < 2 ^ 32) :
    ((Mcarve.defaultConfig (fixedZone zone now)).startTime.toNat : Int) = newYear2008 zone ∧
      ((Mcarve.defaultConfig (fixedZone zone now)).stopTime.toNat : Int) = now := by
  have start : (fixedZone zone now).mktime { year := 108, mon := 0, mday := 1 } =
      newYear2008 zone := by
    change (daysFromCivil 2008 1 + 1 - 1) * 86400 + 0 * 3600 + 0 * 60 + 0 - zone = newYear2008 zone
    have days : daysFromCivil 2008 1 = 13879 := by decide
    rw [days, newYear2008]
    omega
  constructor
  · rw [Mcarve.defaultConfig, start, narrow_toNat, newYear2008]
    omega
  · rw [Mcarve.defaultConfig, currentTime_fixedZone, narrow_toNat]
    omega

/-- A block that is all times between the start of 2008 and now, and not all zeros. -/
structure TimesUntil (zone now : Int) (buffer : List Byte) : Prop where
  occupied : ∃ time ∈ bigEndianWords buffer, time ≠ 0
  window : ∀ time ∈ bigEndianWords buffer, time ≠ 0 →
    newYear2008 zone ≤ time ∧ (time : Int) ≤ now

/-- What a run reports as timestamps with the default window, on a machine that keeps
its time at a fixed distance from UTC. -/
theorem default_window_reports {σ : Type*} [BlockReader σ] {space : BlockSpace} {holds : σ → Prop}
    (serves : Serves space holds) {reader : σ} (held : holds reader) (memory : BlockBuffer)
    (zone now : Int) (west : -86400 ≤ zone) (east : zone ≤ 86400) (started : 0 ≤ now)
    (representable : now < 2 ^ 32) (blk : Nat) :
    ⟨.timestamps, blk⟩ ∈
        findings (scan (Mcarve.defaultConfig (fixedZone zone now)) memory reader).examined ↔
      blk ∈ space.candidates ∧ TimesUntil zone now (space.contents blk).bytes := by
  obtain ⟨start, stop⟩ := defaultConfig_fixedZone west east started representable
  rw [mem_findings_served serves held]
  apply and_congr_right
  intro _
  change hasTimestamps (space.contents blk).bytes
    (Mcarve.defaultConfig (fixedZone zone now)).startTime
    (Mcarve.defaultConfig (fixedZone zone now)).stopTime = true ↔ _
  rw [SectorTests.hasTimestamps_iff]
  constructor
  · rintro ⟨occupied, window⟩
    refine ⟨occupied, ?_⟩
    intro time member nonzero
    obtain ⟨low, high⟩ := window time member nonzero
    omega
  · intro times
    refine ⟨times.occupied, ?_⟩
    intro time member nonzero
    obtain ⟨low, high⟩ := times.window time member nonzero
    omega

theorem filledFile_default_window : ⟨.timestamps, 0⟩ ∈
      findings (scan (Mcarve.defaultConfig (fixedZone 3600 1700000000)) (filled 0)
        (FileBlockReader.ofDevice
          (Library.StickySource.steady (filled 0x50).bytes (filled_addressable 0x50)))).examined ↔
    0 ∈ (FileBlockReader.space (filled 0x50).bytes).candidates ∧ TimesUntil 3600 1700000000
      ((FileBlockReader.space (filled 0x50).bytes).contents 0).bytes :=
  default_window_reports (FileBlockReader.serves _)
    (FileBlockReader.steady_ofDevice _ (filled_addressable 0x50)) (filled 0) 3600 1700000000
    (by decide) (by decide) (by decide) (by decide) 0

end MinecraftCarve.Calendar
