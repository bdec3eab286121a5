import MinecraftCarve.Mcarve
import MinecraftCarve.SectorTests

/-! What becomes of a time window when its two ends are stored as `uint32_t`. A word is
never zero in the window test, so an end may change as long as no positive 32-bit number
changes sides. -/

namespace MinecraftCarve.NarrowedWindow
open SectorWords Sector SectorTests Time Mcarve

/-- The window as it was meant: some word is nonzero, and every such word lies in it. -/
def InWindow (start stop : Int) (buffer : List Byte) : Prop :=
  (∃ time ∈ bigEndianWords buffer, time ≠ 0) ∧
    ∀ time ∈ bigEndianWords buffer, time ≠ 0 → start ≤ time ∧ (time : Int) ≤ stop

/-- The fields of `config` after both ends are stored. -/
def stored (start stop : Int) : Config := ⟨narrow start, narrow stop⟩

/-- The scan's test of every sector means the window that was stored. -/
def MeaningKept (start stop : Int) : Prop :=
  ∀ sector : BlockBuffer,
    hasTimestamps sector.bytes (stored start stop).startTime (stored start stop).stopTime = true ↔
      InWindow start stop sector.bytes

/-- No positive number lies between the start and its low 32 bits. -/
def StartKept (start : Int) : Prop :=
  0 ≤ start ∧ start < 2 ^ 32 ∨ start < 0 ∧ start % 2 ^ 32 ≤ 1

/-- No 32-bit number lies between the stop and its low 32 bits. -/
def StopKept (stop : Int) : Prop :=
  0 ≤ stop ∧ stop < 2 ^ 32 ∨ 2 ^ 32 ≤ stop ∧ stop % 2 ^ 32 = 2 ^ 32 - 1

/-- No time is in the window, and none in the window of the low 32 bits. -/
structure Empty (start stop : Int) : Prop where
  meant : stop < 1 ∨ 2 ^ 32 ≤ start ∨ stop < start
  wrapped : stop % 2 ^ 32 = 0 ∨ stop % 2 ^ 32 < start % 2 ^ 32

def WindowKept (start stop : Int) : Prop :=
  StartKept start ∧ StopKept stop ∨ Empty start stop

/-- A time is on the same side of both windows. -/
def SameSide (start stop time : Int) : Prop :=
  start ≤ time ∧ time ≤ stop ↔ start % 2 ^ 32 ≤ time ∧ time ≤ stop % 2 ^ 32

theorem sameSide_of_kept {start stop : Int} (kept : WindowKept start stop) {time : Int}
    (positive : 0 < time) (bound : time < 2 ^ 32) : SameSide start stop time := by
  unfold SameSide
  rcases kept with ⟨startKept, stopKept⟩ | ⟨meant, wrapped⟩
  · unfold StartKept at startKept
    unfold StopKept at stopKept
    omega
  · omega

/-- Windows that agree on every time have the same ends, or are both empty: the ends
that a window has among the positive 32-bit numbers lie in it, and so in the other. -/
theorem kept_of_sameSide {start stop : Int}
    (same : ∀ time, 0 < time → time < 2 ^ 32 → SameSide start stop time) :
    WindowKept start stop := by
  unfold SameSide at same
  by_cases none : stop % 2 ^ 32 = 0 ∨ stop % 2 ^ 32 < start % 2 ^ 32
  · refine Or.inr ⟨?_, none⟩
    have first := same (max start 1)
    omega
  · refine Or.inl ⟨?_, ?_⟩
    · unfold StartKept
      have first := same (max start 1)
      have wrappedFirst := same (max (start % 2 ^ 32) 1)
      have wrappedLast := same (stop % 2 ^ 32)
      omega
    · unfold StopKept
      have last := same (min stop (2 ^ 32 - 1))
      have wrappedFirst := same (max (start % 2 ^ 32) 1)
      have wrappedLast := same (stop % 2 ^ 32)
      omega

theorem narrowed_iff (start stop : Int) (buffer : List Byte) :
    hasTimestamps buffer (stored start stop).startTime (stored start stop).stopTime = true ↔
      (∃ time ∈ bigEndianWords buffer, time ≠ 0) ∧ ∀ time ∈ bigEndianWords buffer, time ≠ 0 →
        start % 2 ^ 32 ≤ time ∧ (time : Int) ≤ stop % 2 ^ 32 := by
  rw [hasTimestamps_iff, ← narrow_toNat start, ← narrow_toNat stop]
  simp only [Int.ofNat_le]
  rfl

/-! A sector with one word that is not zero. -/

def oneTime (time : Nat) : BlockBuffer where
  bytes := [BitVec.ofNat 8 (time / 2 ^ 24), BitVec.ofNat 8 (time / 2 ^ 16),
    BitVec.ofNat 8 (time / 2 ^ 8), BitVec.ofNat 8 time] ++ List.replicate 4092 0
  size := by
    rw [List.length_append, List.length_replicate]
    rfl

theorem oneTime_words {time : Nat} (bound : time < 2 ^ 32) :
    ∃ rest, bigEndianWords (oneTime time).bytes = time :: rest ∧ ∀ other ∈ rest, other = 0 := by
  refine ⟨bigEndianWords (List.replicate 4092 0), ?_, ?_⟩
  · change _ :: bigEndianWords (List.replicate 4092 0) = _
    simp only [BitVec.toNat_ofNat]
    congr 1
    omega
  · apply blank_words
    intro byte member
    exact List.eq_of_mem_replicate member

/-- On such a sector a window test looks at the one time. -/
theorem oneTime_window {time : Nat} (positive : 0 < time) (bound : time < 2 ^ 32)
    (inside : Nat → Prop) :
    ((∃ other ∈ bigEndianWords (oneTime time).bytes, other ≠ 0) ∧
      ∀ other ∈ bigEndianWords (oneTime time).bytes, other ≠ 0 → inside other) ↔ inside time := by
  obtain ⟨rest, words, zero⟩ := oneTime_words bound
  rw [words, List.exists_mem_cons_iff, List.forall_mem_cons]
  constructor
  · intro both
    exact both.2.1 (by omega)
  · intro passed
    exact ⟨Or.inl (by omega), fun _ => passed,
      fun other member nonzero => absurd (zero other member) nonzero⟩

/-- Storing the ends keeps the window's meaning just when no time changes sides. -/
theorem meaning_kept_iff (start stop : Int) : MeaningKept start stop ↔ WindowKept start stop := by
  constructor
  · intro kept
    apply kept_of_sameSide
    intro time positive bound
    obtain ⟨time, rfl⟩ := Int.eq_ofNat_of_zero_le positive.le
    have tested := kept (oneTime time)
    rw [narrowed_iff, InWindow, oneTime_window (by omega) (by omega)
      (fun time => start % 2 ^ 32 ≤ time ∧ (time : Int) ≤ stop % 2 ^ 32),
      oneTime_window (by omega) (by omega) (fun time => start ≤ time ∧ (time : Int) ≤ stop)] at tested
    exact tested.symm
  · intro kept sector
    rw [narrowed_iff, InWindow]
    apply and_congr_right
    intro _
    refine forall_congr' (fun time => forall_congr' fun member => forall_congr' fun nonzero => ?_)
    have bound := bigEndianWords_lt sector.bytes time member
    exact (sameSide_of_kept kept (by omega) (by omega)).symm

/-- A machine whose clock has passed the last 32-bit time by one second. -/
def lateClock : Clock := fixedZone 0 4294967296

/-- The default window then ends at time zero and accepts nothing. -/
theorem lateClock_nothing_accepted :
    parseTime lateClock "2008-01-01" = .ok 1199145600 ∧ currentTime lateClock = 4294967296 ∧
      hasTimestamps (oneTime 0x50000000).bytes (stored 1199145600 4294967296).startTime
        (stored 1199145600 4294967296).stopTime = false ∧
      InWindow 1199145600 4294967296 (oneTime 0x50000000).bytes ∧
      ¬MeaningKept 1199145600 4294967296 := by
  have meant : InWindow 1199145600 4294967296 (oneTime 0x50000000).bytes :=
    (oneTime_window (by decide) (by decide) _).mpr (by decide)
  have rejected : hasTimestamps (oneTime 0x50000000).bytes (stored 1199145600 4294967296).startTime
      (stored 1199145600 4294967296).stopTime ≠ true := by
    rw [Ne, narrowed_iff, oneTime_window (by decide) (by decide)
      (fun time => 1199145600 % 2 ^ 32 ≤ (time : Int) ∧ (time : Int) ≤ 4294967296 % 2 ^ 32)]
    decide
  refine ⟨rfl, rfl, by simpa using rejected, meant, ?_⟩
  intro kept
  exact rejected ((kept _).mpr meant)

end MinecraftCarve.NarrowedWindow
