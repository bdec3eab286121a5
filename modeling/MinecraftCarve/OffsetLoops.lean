import MinecraftCarve.OffsetTable

/-! The variables of the two loops of `has_offsets`, after any number of passes. -/

namespace MinecraftCarve.OffsetLoops
open SectorWords Sector OffsetTable

/-- The map holds what offset-table entries can hold, and the counter counts its keys. -/
structure TableExact (scan : OffsetScan) : Prop where
  keys : ∀ offset, scan.chunkLength.contains offset = true → offset.toNat ≤ 0xffff
  values : ∀ chunk ∈ scan.chunkLength.toList, 1 ≤ chunk.2.toNat ∧ chunk.2.toNat ≤ 255
  count : scan.offsetCount.toNat = scan.chunkLength.size
  few : scan.chunkLength.size ≤ 65536

/-- The bound after the lengths of `visited`, as an exact number. -/
structure BoundExact (visited : List (Word × Byte)) (minAllowedOffset : Word) : Prop where
  sum : minAllowedOffset.toNat = 2 + (visited.map (fun chunk => chunk.2.toNat)).sum
  small : minAllowedOffset.toNat ≤ 2 + 255 * 65536

theorem chunks_size (scan : OffsetScan) : (chunks scan).length = scan.chunkLength.size := by
  rw [chunks, List.length_map, Std.TreeMap.length_toList]

theorem tableExact_of_tracks {seen : List Nat} {scan : OffsetScan} (tracks : Tracks seen scan) :
    TableExact scan where
  keys := by
    intro offset held
    obtain ⟨word, member, _, same⟩ := (tracks.contains_iff offset).mp held
    rw [same]
    exact tracks.reasonable word member
  values := tracks.chunk_bounds
  count := by rw [tracks.count, ← tracks.table.length_eq, chunks_size]
  few := by
    rw [← chunks_size]
    exact tracks.chunks_length

/-- The first loop after any of its passes. -/
theorem prefix_tracks {words : List Word} {scan : OffsetScan}
    (passed : words.foldlM offsetStep OffsetScan.empty = some scan) :
    Tracks (words.map (fun word => (bswap32 word).toNat)) scan := by
  have loop := offset_loop words Tracks.empty
  rw [passed] at loop
  exact loop

theorem boundStep_some {bound next : Word} {chunk : Word × Byte}
    (passed : boundStep bound chunk = some next) : next = bound + chunk.2.setWidth 32 := by
  unfold boundStep at passed
  split at passed
  · cases passed
  · exact (Option.some.inj passed).symm

/-- The second loop after any of its passes, as long as the lengths fit. -/
theorem bound_visited (visited : List (Word × Byte)) {bound final : Word}
    (room : bound.toNat + (visited.map (fun chunk => chunk.2.toNat)).sum < 2 ^ 32)
    (passed : visited.foldlM boundStep bound = some final) :
    final.toNat = bound.toNat + (visited.map (fun chunk => chunk.2.toNat)).sum := by
  induction visited generalizing bound with
  | nil =>
    cases passed
    rfl
  | cons chunk rest ih =>
    rw [List.map_cons, List.sum_cons] at room ⊢
    rw [List.foldlM_cons] at passed
    obtain ⟨next, step, tail⟩ := Option.bind_eq_some_iff.mp passed
    obtain rfl := boundStep_some step
    have sum := advance_toNat bound chunk.2 (by omega)
    have rest_sum := ih (by omega) tail
    omega

theorem boundExact_of_tracks {seen : List Nat} {scan : OffsetScan} (tracks : Tracks seen scan)
    {visited rest : List (Word × Byte)} {bound : Word}
    (split : scan.chunkLength.toList = visited ++ rest)
    (passed : visited.foldlM boundStep 2 = some bound) : BoundExact visited bound := by
  have total := tracks.total_le
  have whole := tracks.bound_room
  rw [split, List.map_append, List.sum_append] at total whole
  have exact_sum := bound_visited visited (by omega) passed
  refine ⟨exact_sum, ?_⟩
  rw [exact_sum]
  exact Nat.add_le_add_left (le_trans (Nat.le_add_right _ _) total) 2

/-- At every pass of both loops the map is a table of entries, and neither counter has
wrapped. -/
theorem loop_counters_exact (buffer : List Byte) :
    (∀ seen rest scan, bufU32 buffer = seen ++ rest →
      seen.foldlM offsetStep OffsetScan.empty = some scan → TableExact scan) ∧
    ∀ scan, (bufU32 buffer).foldlM offsetStep OffsetScan.empty = some scan →
      ∀ visited rest bound, scan.chunkLength.toList = visited ++ rest →
        visited.foldlM boundStep 2 = some bound → BoundExact visited bound := by
  constructor
  · intro seen rest scan _ passed
    exact tableExact_of_tracks (prefix_tracks passed)
  · intro scan finished visited rest bound split passed
    exact boundExact_of_tracks (prefix_tracks finished) split passed

/-- A table of four chunks, which goes through both loops. -/
def fourChunks : List Byte := [0, 0, 2, 1, 0, 0, 3, 1, 0, 0, 4, 1, 0, 0, 5, 1]

theorem fourChunks_counters : ∃ scan bound,
    (bufU32 fourChunks).foldlM offsetStep OffsetScan.empty = some scan ∧ TableExact scan ∧
      scan.chunkLength.toList.foldlM boundStep 2 = some bound ∧
      BoundExact scan.chunkLength.toList bound := by
  have through : (((bufU32 fourChunks).foldlM offsetStep OffsetScan.empty).bind
      (fun scan => scan.chunkLength.toList.foldlM boundStep 2)).isSome = true := by decide +kernel
  obtain ⟨bound, both⟩ := Option.isSome_iff_exists.mp through
  obtain ⟨scan, first, second⟩ := Option.bind_eq_some_iff.mp both
  have counters := loop_counters_exact fourChunks
  exact ⟨scan, bound, first, counters.1 _ [] scan (List.append_nil _).symm first, second,
    counters.2 scan first _ [] bound (List.append_nil _).symm second⟩

end MinecraftCarve.OffsetLoops
