import MinecraftCarve.CarveDump
import MinecraftCarve.DumpRuns

/-! Which files `IdentifyExt2FS` takes for a filesystem: on any device, and among the
files that a dump leaves. -/

namespace MinecraftCarve.Identify
open SectorWords Library.StickySource Library.Records

def magic : List Byte := [0x53, 0xef]

/-- The stream after the seek that `IdentifyExt2FS` makes. -/
def sought (device : Nat → Reading Byte) : Stream := (Source.opened device).seek 1080

end MinecraftCarve.Identify
