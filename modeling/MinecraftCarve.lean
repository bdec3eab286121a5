import MinecraftCarve.MappedFile
import MinecraftCarve.NarrowedWindow
import MinecraftCarve.OffsetForms
import MinecraftCarve.OffsetLoops
import MinecraftCarve.OffsetOrder
import MinecraftCarve.OffsetOverlap
import MinecraftCarve.SectorExclusive
import MinecraftCarve.SectorForms
import MinecraftCarve.VectorRead
import MinecraftCarve.Library.Loops
import MinecraftCarve.Library.StickySink
import MinecraftCarve.Library.StickySource
import MinecraftCarve.Report
import MinecraftCarve.ReadIntegrity
import MinecraftCarve.ScanReport
import MinecraftCarve.TimeWindow
import MinecraftCarve.CarveDump
import MinecraftCarve.BufferSizes
import MinecraftCarve.DumpEndings
import MinecraftCarve.AllocatedBlocks
import MinecraftCarve.FileScan
import MinecraftCarve.PartialDump
import MinecraftCarve.WindowScans
import MinecraftCarve.ReaderSubstitution
import MinecraftCarve.Calendar
import MinecraftCarve.DateText
import MinecraftCarve.MostlyZero
import MinecraftCarve.OffsetDeletion
import MinecraftCarve.Identify
import MinecraftCarve.ReportOrder
import MinecraftCarve.DumpReads
import MinecraftCarve.DumpCheckpoints
import MinecraftCarve.McarveEndings
import MinecraftCarve.ReportJoin
import MinecraftCarve.ImagePieces
import MinecraftCarve.RegionFile
import MinecraftCarve.RegionScan
import MinecraftCarve.RegionHeader
import MinecraftCarve.ReportText
import MinecraftCarve.ProgramOptions
