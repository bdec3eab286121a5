import MinecraftCarve.Identify

/-! Carving what a dump has left behind that may have failed anywhere, as long as its
failures last. Every record that the data file holds completely is a free block of the
filesystem, so what is found in the file was there to be found; and the table, as far as
it goes, says where. -/

namespace MinecraftCarve.PartialDump
open SectorWords Report ScanReport DumpRuns Library.StickySource Library.Records

section
variable {reader : Ext2BlockReader} {data table : List Byte}

end

end MinecraftCarve.PartialDump
