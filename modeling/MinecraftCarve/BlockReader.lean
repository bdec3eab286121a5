import MinecraftCarve.Ext2Filesystem

/-! `BlockReader.hpp`: the interface and its three implementations.
The abstract view is a block space, which a reader serves as long as no read fails. -/

namespace MinecraftCarve
open SectorWords Library.StickySource

def BLOCKSIZE : Nat := 4096

structure BlockBuffer where
  bytes : List Byte
  size : bytes.length = BLOCKSIZE

/-- A buffer that holds one byte throughout. -/
def filled (byte : Byte) : BlockBuffer :=
  ⟨List.replicate BLOCKSIZE byte, List.length_replicate⟩

theorem filled_addressable (byte : Byte) : (filled byte).bytes.length < 2 ^ 63 := by
  rw [(filled byte).size]
  decide

class BlockReader (σ : Type*) where
  readBlock : σ → Nat → BlockBuffer → ReadCall σ BlockBuffer
  firstBlknum : σ → Nat
  blocksCount : σ → Nat
  isAllocated : σ → Nat → Bool := fun _ _ => false

/-- The constructor only lets filesystems with 4kB blocks through. -/
structure Ext2BlockReader where
  e2fs : Ext2Filesystem
  fourK : e2fs.blocksize = BLOCKSIZE

namespace Ext2BlockReader

def construct (opening : Opening) : Except String Ext2BlockReader :=
  match Ext2Filesystem.construct opening with
  | .error what => .error what
  | .ok e2fs =>
    if different : e2fs.blocksize ≠ BLOCKSIZE then
      .error "This ext2/3/4 filesystem does not have 4kB blocks"
    else .ok ⟨e2fs, not_not.mp different⟩

def next (reader : Ext2BlockReader) : Ext2BlockReader := ⟨reader.e2fs.next, reader.fourK⟩

/-- The channel advances and the buffer takes what the read has left in it. -/
def readBlock (reader : Ext2BlockReader) (blknum : Nat) (buf : BlockBuffer) :
    ReadCall Ext2BlockReader BlockBuffer :=
  let call := reader.e2fs.readBlock blknum buf.bytes 1
  { reader := reader.next
    buffer := ⟨call.buffer, (reader.e2fs.readBlock_length blknum buf.bytes 1).trans buf.size⟩
    requested := call.requested
    status := call.status }

instance : BlockReader Ext2BlockReader where
  readBlock := readBlock
  firstBlknum reader := reader.e2fs.firstDataBlock
  blocksCount reader := reader.e2fs.blocksCount
  isAllocated reader blknum := reader.e2fs.blockIsUsed blknum

end Ext2BlockReader

/-- The byte offset of every block below `totalBlocks` is a file position. -/
structure FileBlockReader where
  file : Stream
  totalBlocks : Nat
  reachable : totalBlocks * BLOCKSIZE < 2 ^ 63

namespace FileBlockReader

private theorem blocks_reachable {size : Int} (addressable : size < 2 ^ 63) :
    (size.tdiv BLOCKSIZE).toNat * BLOCKSIZE < 2 ^ 63 := by
  unfold BLOCKSIZE
  rcases Int.le_total 0 size with nonnegative | negative
  · rw [Int.tdiv_eq_ediv_of_nonneg nonnegative]
    omega
  · have mirrored := Int.neg_tdiv (-size) (4096 : Nat)
    have nonnegative : 0 ≤ (-size).tdiv (4096 : Nat) := Int.tdiv_nonneg (by omega) (by decide)
    rw [Int.neg_neg] at mirrored
    omega

def ofDevice (device : Nat → Reading Byte) : FileBlockReader :=
  let file := (Source.opened device).seekEnd
  { file := file.seek 0
    totalBlocks := (file.tell.tdiv BLOCKSIZE).toNat
    reachable := blocks_reachable (Source.tell_seekEnd_lt _) }

def construct (filename : String) (device : Device) : Except String FileBlockReader :=
  match device with
  | none => .error ("Failed to open file: " ++ filename)
  | some device => .ok (ofDevice device)

/-- A `uint64_t` product passed as a signed stream position. -/
def offset (blknum : Nat) : Int := (BitVec.ofNat 64 (blknum * BLOCKSIZE)).toInt

def readBlock (reader : FileBlockReader) (blknum : Nat) (buf : BlockBuffer) :
    ReadCall FileBlockReader BlockBuffer :=
  if reader.totalBlocks ≤ blknum then
    ⟨reader, buf, 0, .threw ("Block number out of range: " ++ toString blknum)⟩
  else
    let file := reader.file.seek (offset blknum)
    let (file, moved) := file.read BLOCKSIZE
    -- the state of the stream is not looked at
    { reader := { reader with file := file }
      buffer := ⟨overlay moved buf.bytes, (overlay_length moved buf.bytes).trans buf.size⟩
      requested := BLOCKSIZE
      status := .ok }

instance : BlockReader FileBlockReader where
  readBlock := readBlock
  firstBlknum _ := 0
  blocksCount reader := reader.totalBlocks

end FileBlockReader

/-- What the system calls of `MmapBlockReader` find of an open file. -/
structure MmapFile where
  lseek : Int
  mmap : Nat → Option (Nat → Byte)

structure MmapBlockReader where
  fileSize : BitVec 64
  totalBlocks : Nat
  fileData : Nat → Byte
  whole : totalBlocks = fileSize.toNat / BLOCKSIZE

namespace MmapBlockReader

def opened (fileSize : BitVec 64) (fileData : Nat → Byte) : MmapBlockReader where
  fileSize := fileSize
  totalBlocks := fileSize.toNat / BLOCKSIZE
  fileData := fileData
  whole := rfl

/-- A failed `lseek` is not told apart: its result is stored as a `uint64_t`. -/
def construct (filename : String) (file : Option MmapFile) : Except String MmapBlockReader :=
  match file with
  | none => .error ("Failed to open file: " ++ filename)
  | some file =>
    let fileSize := BitVec.ofInt 64 file.lseek
    match file.mmap fileSize.toNat with
    | none => .error "Failed to mmap file"
    | some fileData => .ok (opened fileSize fileData)

/-- `memcpy` of one block from an address within the mapping. -/
def copied (fileData : Nat → Byte) (offset : Nat) : List Byte :=
  (List.range BLOCKSIZE).map (fun index => fileData (offset + index))

theorem copied_length (fileData : Nat → Byte) (offset : Nat) :
    (copied fileData offset).length = BLOCKSIZE := by
  rw [copied, List.length_map, List.length_range]

def readBlock (reader : MmapBlockReader) (blknum : Nat) (buf : BlockBuffer) :
    ReadCall MmapBlockReader BlockBuffer :=
  if reader.totalBlocks ≤ blknum then
    ⟨reader, buf, 0, .threw ("Block number out of range: " ++ toString blknum)⟩
  else
    let offset := (BitVec.ofNat 64 (blknum * BLOCKSIZE)).toNat
    ⟨reader, ⟨copied reader.fileData offset, copied_length _ _⟩, BLOCKSIZE, .ok⟩

instance : BlockReader MmapBlockReader where
  readBlock := readBlock
  firstBlknum _ := 0
  blocksCount reader := reader.totalBlocks

end MmapBlockReader

/-- A range of numbered blocks with their allocation and contents. -/
structure BlockSpace where
  first : Nat
  count : Nat
  allocated : Nat → Bool
  contents : Nat → BlockBuffer

/-- What a reader answers in every state that calls to it can lead to. -/
structure Serves {σ : Type*} [BlockReader σ] (space : BlockSpace) (holds : σ → Prop) : Prop where
  firstBlknum : ∀ reader, holds reader → BlockReader.firstBlknum reader = space.first
  blocksCount : ∀ reader, holds reader → BlockReader.blocksCount reader = space.count
  isAllocated : ∀ reader, holds reader → BlockReader.isAllocated reader = space.allocated
  readBlock : ∀ reader, holds reader → ∀ blk < space.count, ∀ buffer,
    (BlockReader.readBlock reader blk buffer).status = .ok ∧
      (BlockReader.readBlock reader blk buffer).buffer = space.contents blk ∧
      holds (BlockReader.readBlock reader blk buffer).reader

theorem BlockBuffer.eq_of_bytes {first second : BlockBuffer} (same : first.bytes = second.bytes) :
    first = second := by
  cases first
  cases second
  simpa using same

namespace Ext2BlockReader

theorem block_size (reader : Ext2BlockReader) (blk : Nat) :
    (reader.e2fs.block blk).length = BLOCKSIZE :=
  (reader.e2fs.block_length blk).trans reader.fourK

def space (reader : Ext2BlockReader) : BlockSpace where
  first := reader.e2fs.firstDataBlock
  count := reader.e2fs.blocksCount
  allocated := reader.e2fs.blockIsUsed
  contents blk := ⟨reader.e2fs.block blk, reader.block_size blk⟩

/-- Every call gives the block or an exception, never a read past the buffer. -/
theorem readBlock_cases (reader : Ext2BlockReader) (blk : Nat) (buffer : BlockBuffer) :
    ((reader.readBlock blk buffer).status = .ok ∧ reader.e2fs.errval = 0 ∧
        (reader.readBlock blk buffer).buffer.bytes = reader.e2fs.block blk) ∨
      ((reader.readBlock blk buffer).status = .threw "Could not read block" ∧
        reader.e2fs.errval ≠ 0) := by
  have same : buffer.bytes.length = reader.e2fs.blocksize := buffer.size.trans reader.fourK.symm
  rcases reader.e2fs.readBlock_cases blk buffer.bytes with
    ⟨ok, fine, _, filled⟩ | ⟨threw, failed⟩ | ⟨_, short⟩
  · refine Or.inl ⟨ok, fine, ?_⟩
    rw [← same, List.drop_length, List.append_nil] at filled
    exact filled
  · exact Or.inr ⟨threw, failed⟩
  · omega

/-- A reader of the given blocks on whose channel no read fails. -/
def Steady (space : BlockSpace) (reader : Ext2BlockReader) : Prop :=
  reader.e2fs.Quiet ∧ reader.space = space

theorem serves (space : BlockSpace) : Serves space (Steady space) where
  firstBlknum reader held := congrArg BlockSpace.first held.2
  blocksCount reader held := congrArg BlockSpace.count held.2
  isAllocated reader held := congrArg BlockSpace.allocated held.2
  readBlock := by
    intro reader held blk _ buffer
    obtain ⟨quiet, rfl⟩ := held
    rcases reader.readBlock_cases blk buffer with ⟨ok, _, filled⟩ | ⟨_, failed⟩
    · exact ⟨ok, BlockBuffer.eq_of_bytes filled, quiet, rfl⟩
    · exact absurd (quiet _) failed

end Ext2BlockReader

namespace FileBlockReader

/-- The product stays within the positions of the file for every block in range. -/
theorem offset_eq {reader : FileBlockReader} {blk : Nat} (inRange : blk < reader.totalBlocks) :
    offset blk = (blk * BLOCKSIZE : Nat) := by
  have reachable := reader.reachable
  have below : blk * BLOCKSIZE ≤ reader.totalBlocks * BLOCKSIZE :=
    Nat.mul_le_mul_right _ inRange.le
  unfold offset
  rw [BitVec.toInt_eq_toNat_of_lt (by rw [BitVec.toNat_ofNat]; omega), BitVec.toNat_ofNat,
    Nat.mod_eq_of_lt (by omega)]

def slice (contents : List Byte) (blk : Nat) : List Byte :=
  (contents.drop (blk * BLOCKSIZE)).take BLOCKSIZE

theorem slice_length {contents : List Byte} {blk : Nat}
    (inside : blk * BLOCKSIZE + BLOCKSIZE ≤ contents.length) :
    (slice contents blk).length = BLOCKSIZE := by
  rw [slice, List.length_take, List.length_drop]
  omega

/-- The stream after the seek that a call for `blk` makes. -/
def sought (reader : FileBlockReader) (blk : Nat) : Stream := reader.file.seek (offset blk)

theorem readBlock_inRange {reader : FileBlockReader} {blk : Nat}
    (inRange : blk < reader.totalBlocks) (buffer : BlockBuffer) :
    (reader.readBlock blk buffer).status = .ok ∧
      (reader.readBlock blk buffer).requested = BLOCKSIZE ∧
      (reader.readBlock blk buffer).buffer.bytes =
        overlay ((reader.sought blk).read BLOCKSIZE).2 buffer.bytes ∧
      (reader.readBlock blk buffer).reader =
        { reader with file := ((reader.sought blk).read BLOCKSIZE).1 } := by
  unfold readBlock
  rw [if_neg (by omega)]
  exact ⟨rfl, rfl, rfl, rfl⟩

/-- What the device has to grant for one call: the seek, then a full block. -/
structure Granted (device : Nat → Reading Byte) (clock blk : Nat) : Prop where
  seek : (device clock).seekFails = false
  whole : ∀ stop, (device (clock + 1)).stopsAfter = some stop → BLOCKSIZE ≤ stop
  long : blk * BLOCKSIZE + BLOCKSIZE ≤ (device (clock + 1)).contents.length

/-- A granted call on a stream without failures fills the buffer. -/
theorem readBlock_granted {reader : FileBlockReader} {blk : Nat} (sound : reader.file.fail = false)
    (inRange : blk < reader.totalBlocks)
    (granted : Granted reader.file.device reader.file.clock blk) (buffer : BlockBuffer) :
    (reader.readBlock blk buffer).buffer.bytes =
        slice (reader.file.device (reader.file.clock + 1)).contents blk ∧
      (reader.readBlock blk buffer).reader.file.Good := by
  obtain ⟨soughtGood, position⟩ := Source.seek_good sound granted.seek
  rw [← offset_eq inRange] at soughtGood position
  have later : (reader.sought blk).now = reader.file.device (reader.file.clock + 1) :=
    Source.seek_now _ _
  have long : (reader.sought blk).position + BLOCKSIZE ≤
      (reader.sought blk).now.contents.length := by
    rw [later, sought, position]
    exact granted.long
  obtain ⟨readGood, moved⟩ := Source.read_full soughtGood
    (fun stop stops => granted.whole stop (later ▸ stops)) long
  obtain ⟨_, _, filled, after⟩ := readBlock_inRange inRange buffer
  rw [filled, after]
  refine ⟨?_, readGood⟩
  have whole : ((reader.sought blk).read BLOCKSIZE).2 =
      slice (reader.file.device (reader.file.clock + 1)).contents blk := by
    rw [sought, moved, position, slice, ← later]
    rfl
  rw [whole, overlay_full]
  rw [buffer.size]
  exact slice_length granted.long

@[simp] theorem ofDevice_device (device : Nat → Reading Byte) :
    (ofDevice device).file.device = device := by
  simp [ofDevice, Source.seekEnd, Source.opened]

@[simp] theorem ofDevice_clock (device : Nat → Reading Byte) : (ofDevice device).file.clock = 2 := by
  simp [ofDevice, Source.seekEnd, Source.opened]

private theorem opened_sound (device : Nat → Reading Byte) : (Source.opened device).fail = false :=
  (Source.opened_good device).sound

/-- The size is the one the constructor sees, or nothing if it cannot seek to the end. -/
theorem ofDevice_totalBlocks (device : Nat → Reading Byte) : (ofDevice device).totalBlocks =
    if (device 0).seekFails then 0 else (device 0).contents.length / BLOCKSIZE := by
  change ((Source.opened device).seekEnd.tell.tdiv BLOCKSIZE).toNat = _
  rw [Source.tell_seekEnd (opened_sound device)]
  change (Int.tdiv (if (device 0).seekFails then -1 else ((device 0).contents.length : Int))
    BLOCKSIZE).toNat = _
  split <;> rfl

/-- With a block in range the first seek was granted, and the second one decides. -/
theorem ofDevice_fail {device : Nat → Reading Byte} (occupied : 0 < (ofDevice device).totalBlocks) :
    (ofDevice device).file.fail = (device 1).seekFails := by
  rw [ofDevice_totalBlocks] at occupied
  have granted : (Source.opened device).now.seekFails = false := by
    cases refused : (device 0).seekFails with
    | true =>
      rw [if_pos refused] at occupied
      exact absurd occupied (Nat.lt_irrefl 0)
    | false => exact refused
  have first : (Source.opened device).seekEnd.fail = false := by
    rw [Source.seekEnd, Source.fail_seek, opened_sound, granted]
    rfl
  change ((Source.opened device).seekEnd.seek (0 : Nat)).fail = _
  rw [Source.fail_seek, first, Source.seekEnd, Source.seek_now]
  rfl

/-- The blocks of a file: its whole 4kB pieces, none of them allocated. -/
def space (contents : List Byte) : BlockSpace where
  first := 0
  count := contents.length / BLOCKSIZE
  allocated _ := false
  contents blk :=
    ⟨overlay (slice contents blk) (List.replicate BLOCKSIZE 0),
      (overlay_length _ _).trans List.length_replicate⟩

theorem slice_inside {contents : List Byte} {blk : Nat}
    (inRange : blk < contents.length / BLOCKSIZE) :
    blk * BLOCKSIZE + BLOCKSIZE ≤ contents.length := by
  have whole := Nat.div_mul_le_self contents.length BLOCKSIZE
  have next := Nat.mul_le_mul_right BLOCKSIZE (Nat.succ_le_of_lt inRange)
  rw [Nat.succ_mul] at next
  omega

theorem space_contents {contents : List Byte} {blk : Nat}
    (inRange : blk < contents.length / BLOCKSIZE) :
    ((space contents).contents blk).bytes = slice contents blk :=
  overlay_full ((slice_length (slice_inside inRange)).trans List.length_replicate.symm)

/-- A reader of a file that can be read and does not change. -/
def Steady (contents : List Byte) (reader : FileBlockReader) : Prop :=
  reader.file.fail = false ∧ reader.totalBlocks = contents.length / BLOCKSIZE ∧
    ∃ addressable, reader.file.device = steady contents addressable

theorem steady_ofDevice (contents : List Byte) (addressable : contents.length < 2 ^ 63) :
    Steady contents (ofDevice (steady contents addressable)) :=
  ⟨rfl, ofDevice_totalBlocks _, addressable, ofDevice_device _⟩

theorem serves (contents : List Byte) : Serves (space contents) (Steady contents) where
  firstBlknum _ _ := rfl
  blocksCount _ held := held.2.1
  isAllocated _ _ := rfl
  readBlock := by
    intro reader held blk inSpace buffer
    obtain ⟨sound, total, addressable, device⟩ := held
    have inRange : blk < reader.totalBlocks := total ▸ inSpace
    have granted : Granted reader.file.device reader.file.clock blk := by
      rw [device]
      exact ⟨rfl, fun _ stops => (Option.some_ne_none _ stops.symm).elim, slice_inside inSpace⟩
    obtain ⟨ok, _, _, after⟩ := readBlock_inRange inRange buffer
    obtain ⟨filled, good⟩ := readBlock_granted sound inRange granted buffer
    refine ⟨ok, BlockBuffer.eq_of_bytes ?_, good.sound, ?_, addressable, ?_⟩
    · rw [space_contents inSpace]
      rw [device] at filled
      exact filled
    · exact (congrArg totalBlocks after).trans total
    · refine (congrArg (fun reader => reader.file.device) after).trans ?_
      rw [Source.read_device, sought, Source.seek_device, device]

end FileBlockReader

namespace MmapBlockReader

/-- A mapping that shows the given bytes. -/
structure Shows (contents : List Byte) (reader : MmapBlockReader) : Prop where
  fileSize : reader.fileSize.toNat = contents.length
  fileData : ∀ index (inside : index < contents.length), reader.fileData index = contents[index]

theorem Shows.totalBlocks {contents : List Byte} {reader : MmapBlockReader}
    (shown : Shows contents reader) : reader.totalBlocks = contents.length / BLOCKSIZE := by
  rw [reader.whole, shown.fileSize]

theorem copied_shown {contents : List Byte} {reader : MmapBlockReader} {blk : Nat}
    (shown : Shows contents reader) (inside : blk * BLOCKSIZE + BLOCKSIZE ≤ contents.length) :
    copied reader.fileData (blk * BLOCKSIZE) = FileBlockReader.slice contents blk := by
  apply List.ext_getElem
  · rw [copied_length, FileBlockReader.slice_length inside]
  · intro index held _
    rw [copied_length] at held
    simp only [copied, FileBlockReader.slice, List.getElem_map, List.getElem_range,
      List.getElem_take, List.getElem_drop]
    exact shown.fileData _ (by omega)

/-- A block in range lies within the mapping, so its offset does not wrap. -/
theorem readBlock_shown {contents : List Byte} {reader : MmapBlockReader} {blk : Nat}
    (shown : Shows contents reader) (inRange : blk < contents.length / BLOCKSIZE)
    (buffer : BlockBuffer) :
    (reader.readBlock blk buffer).status = .ok ∧
      (reader.readBlock blk buffer).buffer.bytes = FileBlockReader.slice contents blk ∧
      (reader.readBlock blk buffer).reader = reader := by
  have inside := FileBlockReader.slice_inside inRange
  have size : contents.length < 2 ^ 64 := shown.fileSize ▸ reader.fileSize.isLt
  have offset : (BitVec.ofNat 64 (blk * BLOCKSIZE)).toNat = blk * BLOCKSIZE := by
    rw [BitVec.toNat_ofNat, Nat.mod_eq_of_lt (by omega)]
  have notBeyond : ¬reader.totalBlocks ≤ blk := by
    rw [shown.totalBlocks]
    omega
  have taken : reader.readBlock blk buffer = ⟨reader, ⟨copied reader.fileData
      (BitVec.ofNat 64 (blk * BLOCKSIZE)).toNat, copied_length _ _⟩, BLOCKSIZE, .ok⟩ :=
    if_neg notBeyond
  have filled : (reader.readBlock blk buffer).buffer.bytes =
      copied reader.fileData (BitVec.ofNat 64 (blk * BLOCKSIZE)).toNat := by
    rw [taken]
  rw [filled, offset, copied_shown shown inside, taken]
  exact ⟨rfl, rfl, rfl⟩

theorem serves (contents : List Byte) : Serves (FileBlockReader.space contents) (Shows contents) where
  firstBlknum _ _ := rfl
  blocksCount _ shown := shown.totalBlocks
  isAllocated _ _ := rfl
  readBlock := by
    intro reader shown blk inSpace buffer
    obtain ⟨ok, copied, same⟩ := readBlock_shown shown inSpace buffer
    refine ⟨ok, BlockBuffer.eq_of_bytes ?_, ?_⟩
    · rw [FileBlockReader.space_contents inSpace]
      exact copied
    · change Shows contents (reader.readBlock blk buffer).reader
      rw [same]
      exact shown

end MmapBlockReader

end MinecraftCarve
