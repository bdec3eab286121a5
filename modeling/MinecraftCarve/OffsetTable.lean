import MinecraftCarve.Sector
import MinecraftCarve.Library.ExtentPacking
import Mathlib.Algebra.Group.Action.Defs
import Mathlib.Data.Finset.Card
import Mathlib.Data.List.Perm.Basic

/-! What `has_offsets` decides. The first loop builds the table of present chunks
and rejects repeats; the second walks it in order of offsets. Together they accept
exactly the tables described by `Accepted`, in plain numbers. -/

namespace MinecraftCarve.OffsetTable
open SectorWords Sector Library.ExtentPacking

/-- A table word as its pair (sector offset, sector length). -/
def entry (word : Nat) : Nat × Nat := (word / 256, word % 256)

/-- The entries of chunks that are present, in table order. -/
def present (words : List Nat) : List (Nat × Nat) :=
  (words.map entry).filter (fun chunk => 0 < chunk.2)

/-- No entry names the offset of an earlier present chunk. -/
def NoRepeat (words : List Nat) : Prop :=
  words.Pairwise (fun earlier later => 0 < earlier % 256 → later / 256 ≠ earlier / 256)

structure Accepted (words : List Nat) : Prop where
  reasonable : ∀ word ∈ words, word / 256 ≤ 0xffff
  noRepeat : NoRepeat words
  populous : 4 ≤ (present words).length
  spaced : ∀ chunk ∈ present words, 2 + below (present words) chunk.1 ≤ chunk.1

/-- The map's chunks as pairs of numbers, in order of offsets. -/
def chunks (scan : OffsetScan) : List (Nat × Nat) :=
  scan.chunkLength.toList.map (fun chunk => (chunk.1.toNat, chunk.2.toNat))

/-- What the first loop knows about the words it has read. -/
structure Tracks (seen : List Nat) (scan : OffsetScan) : Prop where
  reasonable : ∀ word ∈ seen, word / 256 ≤ 0xffff
  noRepeat : NoRepeat seen
  table : (chunks scan).Perm (present seen)
  count : scan.offsetCount.toNat = (present seen).length

theorem present_append (words : List Nat) (word : Nat) :
    present (words ++ [word]) = present words ++ if 0 < word % 256 then [entry word] else [] := by
  have last : present [word] = if 0 < word % 256 then [entry word] else [] := by
    by_cases positive : 0 < word % 256
    · simp [present, entry, positive]
    · simp [present, entry, positive]
  rw [← last]
  simp only [present, List.map_append, List.filter_append]

theorem mem_present {words : List Nat} {chunk : Nat × Nat} :
    chunk ∈ present words ↔ ∃ word ∈ words, 0 < word % 256 ∧ chunk = entry word := by
  simp only [present, List.mem_filter, List.mem_map, decide_eq_true_eq]
  constructor
  · intro kept
    obtain ⟨⟨word, member, rfl⟩, positive⟩ := kept
    exact ⟨word, member, positive, rfl⟩
  · intro found
    obtain ⟨word, member, positive, rfl⟩ := found
    exact ⟨⟨word, member, rfl⟩, positive⟩

theorem present_positive (words : List Nat) : ∀ chunk ∈ present words, 0 < chunk.2 := by
  intro chunk member
  simpa using (List.mem_filter.mp member).2

/-- What holds of all pairs of present chunks, as a property of the words. -/
theorem pairwise_present {words : List Nat} {related : Nat × Nat → Nat × Nat → Prop} :
    (present words).Pairwise related ↔ words.Pairwise (fun earlier later =>
      0 < earlier % 256 → 0 < later % 256 → related (entry earlier) (entry later)) := by
  rw [present, List.pairwise_filter, List.pairwise_map]
  apply List.Pairwise.iff
  intro earlier later
  constructor
  · intro all first second
    exact all (decide_eq_true first) (decide_eq_true second)
  · intro all first second
    exact all (of_decide_eq_true first) (of_decide_eq_true second)

theorem present_distinct {words : List Nat} (noRepeat : NoRepeat words) :
    (present words).Pairwise (fun first second => first.1 ≠ second.1) := by
  rw [pairwise_present]
  apply noRepeat.imp
  intro earlier later fresh positive _ same
  exact fresh positive same.symm

theorem chunks_ordered (scan : OffsetScan) :
    (chunks scan).Pairwise (fun first second => first.1 < second.1) := by
  rw [chunks, List.pairwise_map]
  apply scan.chunkLength.ordered_keys_toList.imp
  intro first second ordered
  exact BitVec.lt_def.mp (compareOfLessAndEq_eq_lt.mp ordered)

theorem contains_iff (scan : OffsetScan) (offset : Word) :
    scan.chunkLength.contains offset = true ↔ ∃ chunk ∈ chunks scan, chunk.1 = offset.toNat := by
  rw [← Std.TreeMap.mem_iff_contains, ← Std.TreeMap.mem_keys, ← Std.TreeMap.map_fst_toList_eq_keys]
  constructor
  · intro member
    obtain ⟨chunk, held, rfl⟩ := List.mem_map.mp member
    exact ⟨_, List.mem_map_of_mem held, rfl⟩
  · intro held
    obtain ⟨_, member, same⟩ := held
    obtain ⟨chunk, held, rfl⟩ := List.mem_map.mp member
    exact List.mem_map.mpr ⟨chunk, held, BitVec.eq_of_toNat_eq same⟩

theorem chunks_insert (scan : OffsetScan) (offset : Word) (length : Byte) (count : Word)
    (absent : scan.chunkLength.contains offset = false) :
    (chunks ⟨scan.chunkLength.insert offset length, count⟩).Perm
      ((offset.toNat, length.toNat) :: chunks scan) := by
  have kept : scan.chunkLength.toList.filter (fun chunk => ¬offset == chunk.1) =
      scan.chunkLength.toList := by
    rw [List.filter_eq_self]
    intro chunk held
    rw [decide_eq_true_eq, beq_iff_eq]
    intro same
    have found := (contains_iff scan chunk.1).mpr ⟨_, List.mem_map_of_mem held, rfl⟩
    rw [← same, absent] at found
    cases found
  have inserted := Std.TreeMap.toList_insert_perm (t := scan.chunkLength) (k := offset) (v := length)
  rw [kept] at inserted
  exact inserted.map _

/-- The chunks have distinct offsets no larger than `0xffff`. -/
theorem Tracks.chunks_length {seen : List Nat} {scan : OffsetScan} (tracks : Tracks seen scan) :
    (chunks scan).length ≤ 65536 := by
  have distinct : ((chunks scan).map Prod.fst).Nodup := by
    rw [List.nodup_iff_pairwise_ne, List.pairwise_map]
    exact (chunks_ordered scan).imp (fun ordered => ordered.ne)
  have inside : ((chunks scan).map Prod.fst).toFinset ⊆ Finset.range 65536 := by
    intro offset member
    obtain ⟨chunk, held, rfl⟩ := List.mem_map.mp (List.mem_toFinset.mp member)
    obtain ⟨word, seenWord, _, rfl⟩ := mem_present.mp (tracks.table.mem_iff.mp held)
    have bound := tracks.reasonable word seenWord
    rw [Finset.mem_range, entry]
    omega
  have card := Finset.card_le_card inside
  rwa [List.toFinset_card_of_nodup distinct, List.length_map, Finset.card_range] at card

theorem Tracks.empty : Tracks [] OffsetScan.empty where
  reasonable := by simp
  noRepeat := List.Pairwise.nil
  table := List.Perm.nil
  count := rfl

/-- The tests one word has to pass against the words before it. -/
def Admits (seen : List Nat) (word : Nat) : Prop :=
  word / 256 ≤ 0xffff ∧ ∀ earlier ∈ seen, 0 < earlier % 256 → word / 256 ≠ earlier / 256

theorem Tracks.contains_iff {seen : List Nat} {scan : OffsetScan} (tracks : Tracks seen scan)
    (offset : Word) : scan.chunkLength.contains offset = true ↔
      ∃ earlier ∈ seen, 0 < earlier % 256 ∧ offset.toNat = earlier / 256 := by
  rw [OffsetTable.contains_iff]
  constructor
  · intro found
    obtain ⟨chunk, held, same⟩ := found
    obtain ⟨word, member, positive, rfl⟩ := mem_present.mp (tracks.table.mem_iff.mp held)
    exact ⟨word, member, positive, same.symm⟩
  · intro found
    obtain ⟨word, member, positive, same⟩ := found
    have held := mem_present.mpr ⟨word, member, positive, rfl⟩
    exact ⟨entry word, tracks.table.mem_iff.mpr held, same.symm⟩

theorem admits_append {seen : List Nat} {word : Nat}
    (reasonable : ∀ other ∈ seen, other / 256 ≤ 0xffff) (noRepeat : NoRepeat seen) :
    Admits seen word ↔
      (∀ other ∈ seen ++ [word], other / 256 ≤ 0xffff) ∧ NoRepeat (seen ++ [word]) := by
  simp only [Admits, NoRepeat, List.pairwise_append, List.forall_mem_append,
    List.forall_mem_singleton, List.pairwise_singleton, true_and]
  constructor
  · intro passed
    obtain ⟨bound, fresh⟩ := passed
    exact ⟨⟨reasonable, bound⟩, noRepeat, fresh⟩
  · intro passed
    obtain ⟨⟨_, bound⟩, _, fresh⟩ := passed
    exact ⟨bound, fresh⟩

/-- A word is rejected exactly when it fails its tests. -/
theorem offsetStep_none {seen : List Nat} {scan : OffsetScan} (tracks : Tracks seen scan)
    (word : Word) : offsetStep scan word = none ↔ ¬Admits seen (bswap32 word).toNat := by
  have limit : (0xffff : Word) < fieldOffset (bswap32 word) ↔
      0xffff < (bswap32 word).toNat / 256 := by
    rw [BitVec.lt_def, fieldOffset_toNat]
    rfl
  have repeated := tracks.contains_iff (fieldOffset (bswap32 word))
  rw [fieldOffset_toNat] at repeated
  unfold offsetStep
  by_cases large : (0xffff : Word) < fieldOffset (bswap32 word)
  · have tooFar := limit.mp large
    simp only [if_pos large, true_iff]
    exact fun admits => not_le_of_gt tooFar admits.1
  · have near := mt limit.mpr large
    by_cases found : scan.chunkLength.contains (fieldOffset (bswap32 word)) = true
    · obtain ⟨earlier, member, positive, same⟩ := repeated.mp found
      simp only [if_neg large, if_pos found, true_iff]
      exact fun admits => admits.2 earlier member positive same
    · have admits : Admits seen (bswap32 word).toNat :=
        ⟨not_lt.mp near, fun earlier member positive same =>
          found (repeated.mpr ⟨earlier, member, positive, same⟩)⟩
      simp only [if_neg large, if_neg found, admits, not_true_eq_false, iff_false]
      split
      · exact Option.some_ne_none _
      · exact Option.some_ne_none _

/-- An accepted word is entered when its chunk is present and skipped otherwise. -/
theorem offsetStep_tracks {seen : List Nat} {scan next : OffsetScan} (tracks : Tracks seen scan)
    (word : Word) (step : offsetStep scan word = some next) :
    Tracks (seen ++ [(bswap32 word).toNat]) next := by
  have admits : Admits seen (bswap32 word).toNat := by
    by_contra rejected
    rw [(offsetStep_none tracks word).mpr rejected] at step
    cases step
  obtain ⟨reasonable, noRepeat⟩ := (admits_append tracks.reasonable tracks.noRepeat).mp admits
  simp only [offsetStep] at step
  split at step
  · cases step
  split at step
  · cases step
  next absent =>
  rw [Bool.not_eq_true] at absent
  split at step
  · next positive =>
    obtain rfl := Option.some.inj step
    rw [BitVec.lt_def, fieldLength_toNat] at positive
    have added : present (seen ++ [(bswap32 word).toNat]) =
        present seen ++ [entry (bswap32 word).toNat] := by
      rw [present_append, if_pos (show 0 < (bswap32 word).toNat % 256 from positive)]
    refine ⟨reasonable, noRepeat, ?_, ?_⟩
    · rw [added]
      refine (chunks_insert scan _ _ _ absent).trans ?_
      rw [fieldOffset_toNat, fieldLength_toNat]
      exact ((tracks.table.cons _).trans (List.perm_append_singleton _ _).symm)
    · have few := tracks.chunks_length
      rw [tracks.table.length_eq] at few
      rw [added, List.length_append, List.length_singleton, BitVec.toNat_add, tracks.count]
      change ((present seen).length + 1) % 2 ^ 32 = _
      omega
  · next zero =>
    obtain rfl := Option.some.inj step
    rw [BitVec.lt_def, fieldLength_toNat] at zero
    have unchanged : present (seen ++ [(bswap32 word).toNat]) = present seen := by
      rw [present_append, if_neg (show ¬0 < (bswap32 word).toNat % 256 from zero), List.append_nil]
    refine ⟨reasonable, noRepeat, ?_, ?_⟩
    · rw [unchanged]
      exact tracks.table
    · rw [unchanged]
      exact tracks.count

/-- The first loop, over all words. -/
theorem offset_loop (words : List Word) {seen : List Nat} {scan : OffsetScan}
    (tracks : Tracks seen scan) :
    match words.foldlM offsetStep scan with
    | none => ¬((∀ word ∈ seen ++ words.map (fun word => (bswap32 word).toNat), word / 256 ≤ 0xffff) ∧
        NoRepeat (seen ++ words.map (fun word => (bswap32 word).toNat)))
    | some final => Tracks (seen ++ words.map (fun word => (bswap32 word).toNat)) final := by
  induction words generalizing seen scan with
  | nil => simpa using tracks
  | cons word rest ih =>
    rw [List.foldlM_cons]
    cases step : offsetStep scan word with
    | none =>
      have rejected := (offsetStep_none tracks word).mp step
      rw [admits_append tracks.reasonable tracks.noRepeat] at rejected
      change ¬_
      rw [List.map_cons, List.append_cons]
      intro passed
      obtain ⟨bound, fresh⟩ := passed
      refine rejected ⟨fun other member => bound other (List.mem_append_left _ member), ?_⟩
      exact fresh.sublist (List.sublist_append_left _ _)
    | some next =>
      have result := ih (offsetStep_tracks tracks word step)
      rw [List.map_cons, List.append_cons]
      exact result

/-- One length added to the bound, as long as the sum fits. -/
theorem advance_toNat (bound : Word) (length : Byte)
    (room : bound.toNat + length.toNat < 2 ^ 32) :
    (bound + length.setWidth 32).toNat = bound.toNat + length.toNat := by
  have widened : (length.setWidth 32 : Word).toNat = length.toNat := by
    rw [BitVec.toNat_setWidth]
    omega
  rw [BitVec.toNat_add, widened]
  exact Nat.mod_eq_of_lt room

/-- The second loop, as long as its 32-bit bound cannot wrap. -/
theorem bound_loop (held : List (Word × Byte)) (bound : Word)
    (positive : ∀ chunk ∈ held, 0 < chunk.2.toNat)
    (room : bound.toNat + (held.map (fun chunk => chunk.2.toNat)).sum < 2 ^ 32) :
    (held.foldlM boundStep bound).isSome = true ↔
      FitsFrom bound.toNat (held.map (fun chunk => (chunk.1.toNat, chunk.2.toNat))) := by
  induction held generalizing bound with
  | nil => simp [FitsFrom]
  | cons chunk rest ih =>
    rw [List.forall_mem_cons] at positive
    rw [List.map_cons, List.sum_cons] at room
    have next := advance_toNat bound chunk.2 (by omega)
    have present : (0 : Byte) < chunk.2 := BitVec.lt_def.mpr positive.1
    rw [List.foldlM_cons, List.map_cons, FitsFrom]
    by_cases low : chunk.1 < bound
    · have rejected : boundStep bound chunk = none := if_pos ⟨present, low⟩
      have short : ¬bound.toNat ≤ chunk.1.toNat := not_le_of_gt (BitVec.lt_def.mp low)
      simp [rejected, short]
    · have passed : boundStep bound chunk = some (bound + chunk.2.setWidth 32) :=
        if_neg (fun rejected => low rejected.2)
      have reached : bound.toNat ≤ chunk.1.toNat := not_lt.mp (mt BitVec.lt_def.mpr low)
      have tail := ih (bound + chunk.2.setWidth 32) positive.2 (by rw [next]; omega)
      rw [next] at tail
      simpa only [passed, reached, true_and, Option.bind_eq_bind, Option.bind_some] using tail

theorem Tracks.chunk_bounds {seen : List Nat} {scan : OffsetScan} (tracks : Tracks seen scan) :
    ∀ chunk ∈ scan.chunkLength.toList, 0 < chunk.2.toNat ∧ chunk.2.toNat ≤ 255 := by
  intro chunk held
  have member := tracks.table.mem_iff.mp (List.mem_map_of_mem held)
  exact ⟨present_positive seen _ member, Nat.le_of_lt_succ chunk.2.isLt⟩

/-- The lengths of all chunks together, so the bound ends at no more than `2 + 255 * 65536`. -/
theorem Tracks.total_le {seen : List Nat} {scan : OffsetScan} (tracks : Tracks seen scan) :
    (scan.chunkLength.toList.map (fun chunk => chunk.2.toNat)).sum ≤ 255 * 65536 := by
  have few := tracks.chunks_length
  rw [chunks, List.length_map] at few
  have total : (scan.chunkLength.toList.map (fun chunk => chunk.2.toNat)).sum ≤
      (scan.chunkLength.toList.map (fun chunk => chunk.2.toNat)).length • 255 := by
    apply List.sum_le_card_nsmul
    intro length member
    obtain ⟨chunk, held, rfl⟩ := List.mem_map.mp member
    exact (tracks.chunk_bounds chunk held).2
  rw [List.length_map, smul_eq_mul] at total
  exact total.trans ((Nat.mul_le_mul_right 255 few).trans_eq (Nat.mul_comm _ _))

theorem Tracks.bound_room {seen : List Nat} {scan : OffsetScan} (tracks : Tracks seen scan) :
    (2 : Word).toNat + (scan.chunkLength.toList.map (fun chunk => chunk.2.toNat)).sum < 2 ^ 32 := by
  have total := tracks.total_le
  change 2 + _ < 2 ^ 32
  omega

theorem Tracks.spaced_iff {seen : List Nat} {scan : OffsetScan} (tracks : Tracks seen scan) :
    (scan.chunkLength.toList.foldlM boundStep 2).isSome = true ↔
      ∀ chunk ∈ present seen, 2 + below (present seen) chunk.1 ≤ chunk.1 := by
  rw [bound_loop _ _ (fun chunk held => (tracks.chunk_bounds chunk held).1) tracks.bound_room]
  change FitsFrom 2 (chunks scan) ↔ _
  rw [fitsFrom_iff (chunks scan) _ (chunks_ordered scan)]
  constructor
  · intro fits chunk member
    have fit := fits chunk (tracks.table.mem_iff.mpr member)
    rwa [below_perm tracks.table] at fit
  · intro spaced chunk held
    rw [below_perm tracks.table]
    exact spaced chunk (tracks.table.mem_iff.mp held)

theorem hasOffsets_iff (buffer : List Byte) :
    hasOffsets buffer = true ↔ Accepted (bigEndianWords buffer) := by
  have loop := offset_loop (bufU32 buffer) Tracks.empty
  rw [List.nil_append, bufU32_toNat] at loop
  unfold hasOffsets
  cases run : (bufU32 buffer).foldlM offsetStep OffsetScan.empty with
  | none =>
    rw [run] at loop
    have refused : ¬Accepted (bigEndianWords buffer) :=
      fun accepted => loop ⟨accepted.reasonable, accepted.noRepeat⟩
    simp [refused]
  | some scan =>
    rw [run] at loop
    have enough : scan.offsetCount < 4 ↔ ¬4 ≤ (present (bigEndianWords buffer)).length := by
      rw [BitVec.lt_def, loop.count, not_le]
      rfl
    by_cases few : scan.offsetCount < 4
    · have refused : ¬Accepted (bigEndianWords buffer) :=
        fun accepted => enough.mp few accepted.populous
      simp only [if_pos few, Bool.false_eq_true, refused]
    · have populous := not_not.mp (mt enough.mpr few)
      simp only [if_neg few, loop.spaced_iff]
      constructor
      · intro spaced
        exact ⟨loop.reasonable, loop.noRepeat, populous, spaced⟩
      · exact Accepted.spaced

end MinecraftCarve.OffsetTable
