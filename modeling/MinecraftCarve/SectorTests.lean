import MinecraftCarve.OffsetTable

/-! What the remaining sector tests decide, in terms of the big-endian words, and
the two facts a scan relies on: no test holds of a blank sector, and a sector
passes at most one of them. -/

namespace MinecraftCarve.SectorTests
open SectorWords Sector OffsetTable

theorem timestampStep_some {minTime maxTime bits word next : Word} :
    timestampStep minTime maxTime bits word = some next ↔
      ((bswap32 word).toNat ≠ 0 → minTime.toNat ≤ (bswap32 word).toNat ∧
        (bswap32 word).toNat ≤ maxTime.toNat) ∧ bits ||| bswap32 word = next := by
  have zero := word_eq_zero (bswap32 word)
  unfold timestampStep
  by_cases outside : bswap32 word ≠ 0 ∧ (bswap32 word < minTime ∨ maxTime < bswap32 word)
  · simp only [if_pos outside, reduceCtorEq, false_iff]
    intro passed
    obtain ⟨window, _⟩ := passed
    have inside := window (mt zero.mpr outside.1)
    rcases outside.2 with early | late
    · exact not_lt_of_ge inside.1 (BitVec.lt_def.mp early)
    · exact not_lt_of_ge inside.2 (BitVec.lt_def.mp late)
  · simp only [if_neg outside, Option.some.injEq]
    refine (and_iff_right ?_).symm
    intro nonzero
    have window := not_or.mp (not_and.mp outside (mt zero.mp nonzero))
    exact ⟨not_lt.mp (mt BitVec.lt_def.mpr window.1), not_lt.mp (mt BitVec.lt_def.mpr window.2)⟩

/-- The accumulator is nonzero when some word was, since `|=` never clears a bit. -/
theorem timestamp_loop (words : List Word) (minTime maxTime bits : Word) :
    (∃ final, words.foldlM (timestampStep minTime maxTime) bits = some final ∧ final ≠ 0) ↔
      (∀ time ∈ words.map (fun word => (bswap32 word).toNat), time ≠ 0 →
        minTime.toNat ≤ time ∧ time ≤ maxTime.toNat) ∧
      (bits ≠ 0 ∨ ∃ time ∈ words.map (fun word => (bswap32 word).toNat), time ≠ 0) := by
  induction words generalizing bits with
  | nil => simp
  | cons word rest ih =>
    have joined : bits ||| bswap32 word ≠ 0 ↔ bits ≠ 0 ∨ (bswap32 word).toNat ≠ 0 := by
      have both : bits ||| bswap32 word = 0 ↔ bits = 0 ∧ bswap32 word = 0 := BitVec.or_eq_zero_iff
      rw [Ne, both, not_and_or, word_eq_zero (bswap32 word)]
    rw [List.map_cons, List.forall_mem_cons, List.exists_mem_cons_iff, List.foldlM_cons]
    cases step : timestampStep minTime maxTime bits word with
    | none =>
      have outside : ¬((bswap32 word).toNat ≠ 0 → minTime.toNat ≤ (bswap32 word).toNat ∧
          (bswap32 word).toNat ≤ maxTime.toNat) := by
        intro window
        have passed : timestampStep minTime maxTime bits word = some (bits ||| bswap32 word) :=
          timestampStep_some.mpr ⟨window, rfl⟩
        rw [step] at passed
        cases passed
      simp [outside]
    | some next =>
      obtain ⟨window, rfl⟩ := timestampStep_some.mp step
      have tail := ih (bits ||| bswap32 word)
      rw [joined, or_assoc] at tail
      change (∃ final, rest.foldlM _ (bits ||| bswap32 word) = some final ∧ final ≠ 0) ↔ _
      rw [tail]
      exact and_congr_left (fun _ => (and_iff_right window).symm)

theorem hasTimestamps_iff (buffer : List Byte) (minTime maxTime : Word) :
    hasTimestamps buffer minTime maxTime = true ↔
      (∃ time ∈ bigEndianWords buffer, time ≠ 0) ∧ ∀ time ∈ bigEndianWords buffer, time ≠ 0 →
        minTime.toNat ≤ time ∧ time ≤ maxTime.toNat := by
  have loop := timestamp_loop (bufU32 buffer) minTime maxTime 0
  rw [bufU32_toNat] at loop
  simp only [ne_eq, not_true_eq_false, false_or] at loop
  rw [and_comm, ← loop]
  unfold hasTimestamps
  cases (bufU32 buffer).foldlM (timestampStep minTime maxTime) 0 with
  | none => simp
  | some bits => simp

theorem compCmfFlg_iff (field : Word) :
    (field &&& (0xFFFFFF00 : Word) == compCmfFlg) = true ↔ field.toNat / 256 = 0x02789c := by
  rw [beq_iff_eq, BitVec.toNat_eq, masked_toNat]
  change field.toNat / 256 * 256 = 0x02789c00 ↔ _
  omega

theorem two_words {buffer : List Byte} (long : ¬buffer.length < 8) :
    ∃ first second rest, bufU32 buffer = first :: second :: rest := by
  have count := bufU32_length buffer
  match loaded : bufU32 buffer with
  | [] => rw [loaded, List.length_nil] at count; omega
  | [_] => rw [loaded, List.length_singleton] at count; omega
  | first :: second :: rest => exact ⟨first, second, rest, rfl⟩

/-- The header test reads the first two words only. -/
theorem hasEncodedChunk_iff (buffer : List Byte) :
    hasEncodedChunk buffer = true ↔ ∃ length magic rest,
      bigEndianWords buffer = length :: magic :: rest ∧ length ≤ 2 ^ 20 ∧
        magic / 256 = 0x02789c := by
  have count := bufU32_length buffer
  have swapped := bufU32_toNat buffer
  unfold hasEncodedChunk
  by_cases short : buffer.length < 8
  · rw [dif_pos short]
    refine iff_of_false (by simp) ?_
    intro header
    obtain ⟨length, magic, rest, read, _⟩ := header
    have many := congrArg List.length (swapped.trans read)
    simp only [List.length_map, List.length_cons, count] at many
    omega
  · obtain ⟨first, second, rest, loaded⟩ := two_words short
    rw [loaded, List.map_cons, List.map_cons] at swapped
    have limit : maxDataLength < bswap32 first ↔ ¬(bswap32 first).toNat ≤ 2 ^ 20 := by
      rw [BitVec.lt_def, not_le]
      rfl
    rw [dif_neg short]
    simp only [loaded, List.getElem_cons_zero, List.getElem_cons_succ, ← swapped, List.cons.injEq]
    by_cases long : maxDataLength < bswap32 first
    · rw [if_pos long]
      refine iff_of_false (by simp) ?_
      intro header
      obtain ⟨_, _, _, ⟨rfl, _⟩, fits, _⟩ := header
      exact limit.mp long fits
    · rw [if_neg long, compCmfFlg_iff]
      constructor
      · intro magic
        exact ⟨_, _, _, ⟨rfl, rfl, rfl⟩, not_not.mp (mt limit.mpr long), magic⟩
      · intro header
        obtain ⟨_, _, _, ⟨_, rfl, _⟩, _, magic⟩ := header
        exact magic

/-- Every byte of the buffer is zero. -/
def Blank (buffer : List Byte) : Prop := ∀ byte ∈ buffer, byte = 0

theorem blank_words {buffer : List Byte} (blank : Blank buffer) :
    ∀ word ∈ bigEndianWords buffer, word = 0 := by
  fun_induction bigEndianWords buffer with
  | case1 b0 b1 b2 b3 rest ih =>
    simp only [Blank, List.forall_mem_cons] at blank
    obtain ⟨rfl, rfl, rfl, rfl, tail⟩ := blank
    exact List.forall_mem_cons.mpr ⟨rfl, ih tail⟩
  | case2 short notFour => simp

theorem blank_not_timestamps {buffer : List Byte} (blank : Blank buffer) (minTime maxTime : Word) :
    hasTimestamps buffer minTime maxTime = false := by
  rw [← Bool.not_eq_true, hasTimestamps_iff]
  intro accepted
  obtain ⟨⟨time, member, nonzero⟩, _⟩ := accepted
  exact nonzero (blank_words blank time member)

theorem blank_not_offsets {buffer : List Byte} (blank : Blank buffer) :
    hasOffsets buffer = false := by
  rw [← Bool.not_eq_true, hasOffsets_iff]
  intro accepted
  have none : present (bigEndianWords buffer) = [] := by
    rw [List.eq_nil_iff_forall_not_mem]
    intro chunk member
    obtain ⟨word, held, positive, _⟩ := mem_present.mp member
    rw [blank_words blank word held] at positive
    exact absurd positive (by decide)
  have populous := accepted.populous
  rw [none] at populous
  exact absurd populous (by decide)

theorem blank_not_encodedChunk {buffer : List Byte} (blank : Blank buffer) :
    hasEncodedChunk buffer = false := by
  rw [← Bool.not_eq_true, hasEncodedChunk_iff]
  intro header
  obtain ⟨length, magic, rest, read, _, marked⟩ := header
  have zero := blank_words blank magic (by rw [read]; simp)
  rw [zero] at marked
  exact absurd marked (by decide)

end MinecraftCarve.SectorTests
