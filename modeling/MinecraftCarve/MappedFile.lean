import MinecraftCarve.ReadIntegrity

/-! The two readers of plain files next to each other: `FileBlockReader` seeks and reads,
`MmapBlockReader` copies from a mapping. On a file that does not change every run of
calls looks the same through both, once both can be constructed. -/

namespace MinecraftCarve.MappedFile
open SectorWords ReadIntegrity Library.StickySource

/-- Both calls throw, or neither does and they leave the same block. -/
structure SameCall {σ τ : Type*} (first : ReadCall σ BlockBuffer) (second : ReadCall τ BlockBuffer) :
    Prop where
  throws : (∃ what, first.status = .threw what) ↔ ∃ what, second.status = .threw what
  leaves : (∀ what, first.status ≠ .threw what) → first.buffer = second.buffer

/-- The calls of a run. -/
def run {σ : Type*} [BlockReader σ] (calls : List (Nat × BlockBuffer)) (reader : σ) :
    List (ReadCall σ BlockBuffer) :=
  (steps calls reader).map Step.call

/-- In every run a call looks as if it was the first, whatever is in its buffer. -/
def Memoryless {σ : Type*} [BlockReader σ] (reader : σ) : Prop :=
  ∀ calls, ∀ step ∈ steps calls reader, ∀ buffer,
    SameCall step.call (BlockReader.readBlock reader step.blk buffer)

/-- No use of the interface tells two readers apart. -/
structure Alike {σ τ : Type*} [BlockReader σ] [BlockReader τ] (first : σ) (second : τ) : Prop where
  firstBlknum : BlockReader.firstBlknum first = BlockReader.firstBlknum second
  blocksCount : BlockReader.blocksCount first = BlockReader.blocksCount second
  isAllocated : BlockReader.isAllocated first = BlockReader.isAllocated second
  calls : ∀ calls, List.Forall₂ SameCall (run calls first) (run calls second)
  memoryless : Memoryless first ∧ Memoryless second

/-- Both constructors throw, or neither does and their readers are alike. -/
structure Agree {σ τ : Type*} [BlockReader σ] [BlockReader τ] (first : Except String σ)
    (second : Except String τ) : Prop where
  constructed : first.isOk = second.isOk
  readers : ∀ one other, first = .ok one → second = .ok other → Alike one other

/-- A readable regular file that does not change, as both readers find it. A mapping of
no bytes is refused; any other mapping that is granted shows the file. -/
structure RegularFile where
  contents : List Byte
  addressable : contents.length < 2 ^ 63
  mmap : Nat → Option (Nat → Byte)
  mmap_zero : mmap 0 = none
  mmap_shows : ∀ fileData, mmap contents.length = some fileData →
    ∀ index (inside : index < contents.length), fileData index = contents[index]

def RegularFile.device (file : RegularFile) : Device :=
  some (steady file.contents file.addressable)

def RegularFile.mapped (file : RegularFile) : MmapFile := ⟨file.contents.length, file.mmap⟩

/-! What a reader of a block space answers. -/

/-- A call for a block of the space gives its contents, any other throws. -/
structure Answered {σ : Type*} (space : BlockSpace) (blk : Nat) (call : ReadCall σ BlockBuffer) :
    Prop where
  inside : blk < space.count → call.status = .ok ∧ call.buffer = space.contents blk
  outside : space.count ≤ blk → ∃ what, call.status = .threw what

theorem Answered.same {σ τ : Type*} {space : BlockSpace} {blk : Nat}
    {first : ReadCall σ BlockBuffer} {second : ReadCall τ BlockBuffer}
    (one : Answered space blk first) (other : Answered space blk second) :
    SameCall first second := by
  rcases Nat.lt_or_ge blk space.count with inSpace | beyond
  · obtain ⟨firstOk, firstBlock⟩ := one.inside inSpace
    obtain ⟨secondOk, secondBlock⟩ := other.inside inSpace
    refine ⟨?_, fun _ => firstBlock.trans secondBlock.symm⟩
    rw [firstOk, secondOk]
  · refine ⟨iff_of_true (one.outside beyond) (other.outside beyond), ?_⟩
    intro silent
    obtain ⟨what, threw⟩ := one.outside beyond
    exact absurd threw (silent what)

/-- The calls past the end of a space throw and change nothing. -/
def Refuses {σ : Type*} [BlockReader σ] (space : BlockSpace) (holds : σ → Prop) : Prop :=
  ∀ reader, holds reader → ∀ blk, space.count ≤ blk → ∀ buffer,
    (∃ what, (BlockReader.readBlock reader blk buffer).status = .threw what) ∧
      holds (BlockReader.readBlock reader blk buffer).reader

section Space
variable {σ τ : Type*} [BlockReader σ] [BlockReader τ] {space : BlockSpace}
  {holds : σ → Prop} {holdsToo : τ → Prop}

theorem answered_call (served : Serves space holds) (refused : Refuses space holds) {reader : σ}
    (held : holds reader) (blk : Nat) (buffer : BlockBuffer) :
    Answered space blk (BlockReader.readBlock reader blk buffer) ∧
      holds (BlockReader.readBlock reader blk buffer).reader := by
  rcases Nat.lt_or_ge blk space.count with inSpace | beyond
  · obtain ⟨ok, block, after⟩ := served.readBlock reader held blk inSpace buffer
    exact ⟨⟨fun _ => ⟨ok, block⟩, fun beyond => absurd inSpace (not_lt_of_ge beyond)⟩, after⟩
  · obtain ⟨threw, after⟩ := refused reader held blk beyond buffer
    exact ⟨⟨fun inSpace => absurd inSpace (not_lt_of_ge beyond), fun _ => threw⟩, after⟩

/-- Every call of every run is answered from the space. -/
theorem answered_steps (served : Serves space holds) (refused : Refuses space holds)
    (calls : List (Nat × BlockBuffer)) {reader : σ} (held : holds reader) :
    ∀ step ∈ steps calls reader, Answered space step.blk step.call := by
  have one : ∀ reader, holds reader → ∀ blk buffer,
      Answered space blk (BlockReader.readBlock reader blk buffer) ∧
        holds (BlockReader.readBlock reader blk buffer).reader := by
    intro reader held blk buffer
    exact answered_call served refused held blk buffer
  exact steps_invariant one calls held

theorem memoryless_of_served (served : Serves space holds) (refused : Refuses space holds)
    {reader : σ} (held : holds reader) : Memoryless reader := by
  intro calls step member buffer
  have first := (answered_call served refused held step.blk buffer).1
  exact (answered_steps served refused calls held step member).same first

theorem runs_alike (served : Serves space holds) (refused : Refuses space holds)
    (servedToo : Serves space holdsToo) (refusedToo : Refuses space holdsToo)
    (calls : List (Nat × BlockBuffer)) {first : σ} {second : τ} (held : holds first)
    (heldToo : holdsToo second) : List.Forall₂ SameCall (run calls first) (run calls second) := by
  induction calls generalizing first second with
  | nil => exact List.Forall₂.nil
  | cons call rest ih =>
    obtain ⟨blk, buffer⟩ := call
    obtain ⟨answered, after⟩ := answered_call served refused held blk buffer
    obtain ⟨answeredToo, afterToo⟩ := answered_call servedToo refusedToo heldToo blk buffer
    exact List.Forall₂.cons (answered.same answeredToo) (ih after afterToo)

/-- Two readers of one space are alike. -/
theorem alike_of_served (served : Serves space holds) (refused : Refuses space holds)
    (servedToo : Serves space holdsToo) (refusedToo : Refuses space holdsToo) {first : σ}
    {second : τ} (held : holds first) (heldToo : holdsToo second) : Alike first second where
  firstBlknum := (served.firstBlknum _ held).trans (servedToo.firstBlknum _ heldToo).symm
  blocksCount := (served.blocksCount _ held).trans (servedToo.blocksCount _ heldToo).symm
  isAllocated := (served.isAllocated _ held).trans (servedToo.isAllocated _ heldToo).symm
  calls calls := runs_alike served refused servedToo refusedToo calls held heldToo
  memoryless :=
    ⟨memoryless_of_served served refused held, memoryless_of_served servedToo refusedToo heldToo⟩

end Space

theorem fileReader_refuses (contents : List Byte) :
    Refuses (FileBlockReader.space contents) (FileBlockReader.Steady contents) := by
  intro reader held blk beyond buffer
  have refused : BlockReader.readBlock reader blk buffer =
      ⟨reader, buffer, 0, .threw ("Block number out of range: " ++ toString blk)⟩ :=
    if_pos (held.2.1.trans_le beyond)
  rw [refused]
  exact ⟨⟨_, rfl⟩, held⟩

theorem mmapReader_refuses (contents : List Byte) :
    Refuses (FileBlockReader.space contents) (MmapBlockReader.Shows contents) := by
  intro reader shown blk beyond buffer
  have refused : BlockReader.readBlock reader blk buffer =
      ⟨reader, buffer, 0, .threw ("Block number out of range: " ++ toString blk)⟩ :=
    if_pos (shown.totalBlocks.trans_le beyond)
  rw [refused]
  exact ⟨⟨_, rfl⟩, shown⟩

/-! The constructors. -/

theorem mapped_size (file : RegularFile) :
    (BitVec.ofInt 64 file.mapped.lseek).toNat = file.contents.length := by
  have addressable := file.addressable
  change (BitVec.ofInt 64 (file.contents.length : Int)).toNat = _
  rw [BitVec.ofInt_natCast, BitVec.toNat_ofNat, Nat.mod_eq_of_lt (by omega)]

/-- The mapping decides the constructor, and what it shows is the file. -/
theorem mmap_construct (filename : String) (file : RegularFile) :
    match file.mmap file.contents.length with
    | none => MmapBlockReader.construct filename (some file.mapped) = .error "Failed to mmap file"
    | some _ => ∃ reader, MmapBlockReader.construct filename (some file.mapped) = .ok reader ∧
        MmapBlockReader.Shows file.contents reader := by
  have asked : file.mapped.mmap (BitVec.ofInt 64 file.mapped.lseek).toNat =
      file.mmap file.contents.length := congrArg file.mmap (mapped_size file)
  cases granted : file.mmap file.contents.length with
  | none =>
    rw [granted] at asked
    simp only [MmapBlockReader.construct, asked]
  | some fileData =>
    rw [granted] at asked
    refine ⟨MmapBlockReader.opened (BitVec.ofInt 64 file.mapped.lseek) fileData, ?_, ?_⟩
    · simp only [MmapBlockReader.construct, asked]
    · exact ⟨mapped_size file, file.mmap_shows fileData granted⟩

/-- The readers of a file agree just when the file has bytes and can be mapped. -/
theorem readers_agree_iff (filename : String) (file : RegularFile) :
    Agree (FileBlockReader.construct filename file.device)
        (MmapBlockReader.construct filename (some file.mapped)) ↔
      file.contents ≠ [] ∧ (file.mmap file.contents.length).isSome := by
  have built := mmap_construct filename file
  have opened : FileBlockReader.construct filename file.device =
      .ok (FileBlockReader.ofDevice (steady file.contents file.addressable)) := rfl
  rw [opened]
  cases granted : file.mmap file.contents.length with
  | none =>
    rw [granted] at built
    rw [built]
    refine iff_of_false ?_ (by simp)
    intro agree
    exact absurd agree.constructed (by simp [Except.isOk, Except.toBool])
  | some fileData =>
    rw [granted] at built
    obtain ⟨reader, constructed, shown⟩ := built
    rw [constructed]
    refine iff_of_true ⟨rfl, ?_⟩ ⟨?_, rfl⟩
    · intro one other first second
      cases first
      cases second
      exact alike_of_served (FileBlockReader.serves file.contents) (fileReader_refuses _)
        (MmapBlockReader.serves file.contents) (mmapReader_refuses _)
        (FileBlockReader.steady_ofDevice _ _) shown
    · intro empty
      rw [empty] at granted
      exact absurd (granted.symm.trans file.mmap_zero) (by simp)

/-- A system that maps any file that has bytes. -/
def granting (contents : List Byte) (addressable : contents.length < 2 ^ 63) : RegularFile where
  contents := contents
  addressable := addressable
  mmap length := if length = 0 then none else some (fun index => contents.getD index 0)
  mmap_zero := rfl
  mmap_shows := by
    intro fileData granted index inside
    have occupied : contents.length ≠ 0 := by omega
    rw [if_neg occupied] at granted
    obtain rfl := Option.some.inj granted
    exact (List.getElem_eq_getD 0).symm

theorem granting_maps {contents : List Byte} (addressable : contents.length < 2 ^ 63)
    (occupied : contents ≠ []) :
    ((granting contents addressable).mmap contents.length).isSome = true := by
  have positive : contents.length ≠ 0 := mt List.eq_nil_of_length_eq_zero occupied
  have granted : (granting contents addressable).mmap contents.length =
      some (fun index => contents.getD index 0) := if_neg positive
  rw [granted]
  rfl

theorem filled_occupied (byte : Byte) : (filled byte).bytes ≠ [] := by
  intro empty
  have size := (filled byte).size
  rw [empty] at size
  exact absurd size (by decide)

/-- A file of one block looks the same through both readers. -/
theorem filledFile_alike :
    Agree (FileBlockReader.construct "world.img" (granting _ (filled_addressable 0x41)).device)
      (MmapBlockReader.construct "world.img" (some (granting _ (filled_addressable 0x41)).mapped)) :=
  (readers_agree_iff "world.img" (granting _ (filled_addressable 0x41))).mpr
    ⟨filled_occupied 0x41, granting_maps (filled_addressable 0x41) (filled_occupied 0x41)⟩

/-- On an empty file one reader has no blocks and the other cannot be constructed. -/
theorem emptyFile_told_apart :
    (FileBlockReader.construct "empty" (granting [] (by decide)).device).isOk = true ∧
      (MmapBlockReader.construct "empty" (some (granting [] (by decide)).mapped)).isOk = false ∧
      ¬Agree (FileBlockReader.construct "empty" (granting [] (by decide)).device)
        (MmapBlockReader.construct "empty" (some (granting [] (by decide)).mapped)) := by
  have opened : (FileBlockReader.construct "empty" (granting [] (by decide)).device).isOk = true := rfl
  have refused :
      (MmapBlockReader.construct "empty" (some (granting [] (by decide)).mapped)).isOk = false := rfl
  refine ⟨opened, refused, ?_⟩
  intro agree
  exact absurd (opened.symm.trans (agree.constructed.trans refused)) (by decide)

end MinecraftCarve.MappedFile
