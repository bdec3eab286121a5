import MinecraftCarve.ReportOrder

/-! What can be read from the output. Of each table a report gives kind and block, of
each run of chunk headers the first block and the length; two runs of `mcarve` that
print the same have all that in common, and nothing else. -/

namespace MinecraftCarve.ReportText
open SectorWords Report ScanReport ReportOrder Library.Runs Library.StickySource

/-- The first finding of each run with the length of the run. -/
def outline (made : List Finding) : List (Option Finding × Nat) :=
  (runs Finding.isHeader made).map (fun group => (group.head?, group.length))

/-- What a line says of a run. -/
def stated : Line → Option Finding × Nat
  | .timestamps blk => (some ⟨.timestamps, blk⟩, 1)
  | .offsets blk => (some ⟨.offsets, blk⟩, 1)
  | .chunkHeaders blk count => (some ⟨.chunkHeader, blk⟩, count)

theorem stated_injective : Function.Injective stated := by
  intro first second same
  cases first <;> cases second <;> simp_all [stated]

/-- The line of a piece states its first finding and its length. -/
theorem stated_piece {group : List Finding} {line : Line} (piece : Piece group)
    (shape : Line.ofRun group = some line) : stated line = (group.head?, group.length) := by
  rcases piece with ⟨⟨kind, blk⟩, rfl, alone⟩ | ⟨nonempty, headers⟩
  · cases kind with
    | timestamps => cases shape; rfl
    | offsets => cases shape; rfl
    | chunkHeader => cases alone
  · cases group with
    | nil => exact absurd rfl nonempty
    | cons first rest =>
      obtain ⟨kind, blk⟩ := first
      have header := headers _ (List.mem_cons_self ..)
      cases kind with
      | timestamps => cases header
      | offsets => cases header
      | chunkHeader => cases shape; rfl

theorem stated_pieces {groups : List (List Finding)} {report : List Line}
    (pieces : ∀ group ∈ groups, Piece group)
    (shapes : List.Forall₂ (fun group line => Line.ofRun group = some line) groups report) :
    report.map stated = groups.map (fun group => (group.head?, group.length)) := by
  induction shapes with
  | nil => rfl
  | cons shape _ ih =>
    obtain ⟨piece, others⟩ := List.forall_mem_cons.mp pieces
    rw [List.map_cons, List.map_cons, stated_piece piece shape, ih others]

theorem lines_stated (made : List Finding) : (lines made).map stated = outline made :=
  stated_pieces (runs_pieces made) (pieces_lines (runs_pieces made))

theorem text_outline (made other : List Finding) :
    text (lines made) = text (lines other) ↔ outline made = outline other := by
  rw [← lines_stated, ← lines_stated]
  constructor
  · intro same
    rw [text_injective same]
  · intro same
    rw [List.map_injective_iff.mpr stated_injective same]

/-- The output of any run that ends well is the text of what it has found. -/
theorem main_text {host : Mcarve.Host} {argv : List String} {options : Mcarve.Options}
    (parsed : host.parse argv = .ok options) (normal : (Mcarve.main host argv).exit = .returned 0) :
    (Mcarve.main host argv).cout = text (lines (findings (Mcarve.main host argv).examined)) := by
  rw [Mcarve.main_parsed parsed] at normal ⊢
  rcases Mcarve.carve_cases host (Mcarve.defaultConfig host.clock) options.file with
    ⟨what, same⟩ | ⟨reader, _, same⟩ | ⟨device, _, same⟩
  · rw [same] at normal
    cases normal
  · rw [same] at normal ⊢
    exact scan_text normal
  · rw [same] at normal ⊢
    exact scan_text normal

/-- Two runs that end well print the same if and only if they have the same tables and
the same runs of headers, by first block and length, in the same order. -/
theorem output_read_back (host other : Mcarve.Host) (argv argvToo : List String)
    (options optionsToo : Mcarve.Options) (parsed : host.parse argv = .ok options)
    (parsedToo : other.parse argvToo = .ok optionsToo)
    (normal : (Mcarve.main host argv).exit = .returned 0)
    (normalToo : (Mcarve.main other argvToo).exit = .returned 0) :
    (Mcarve.main host argv).cout = (Mcarve.main other argvToo).cout ↔
      outline (findings (Mcarve.main host argv).examined) =
        outline (findings (Mcarve.main other argvToo).examined) := by
  rw [main_text parsed normal, main_text parsedToo normalToo]
  exact text_outline _ _

/-- Both runs end well, the one on the image and the one on its dump. -/
theorem eastern_normal : (Mcarve.main easternHost ["mcarve", "fs.img"]).exit = .returned 0 ∧
    (Mcarve.main easternHost ["mcarve", "blocks"]).exit = .returned 0 := by
  let reader : Ext2BlockReader := ⟨Dump.fourBlockFs, rfl⟩
  have held : Ext2BlockReader.Steady reader.space reader := ⟨Dump.fourBlockFs_quiet, rfl⟩
  have image : easternHost.parse ["mcarve", "fs.img"] = .ok ⟨"fs.img", none, none⟩ := rfl
  have dump : easternHost.parse ["mcarve", "blocks"] = .ok ⟨"blocks", none, none⟩ := rfl
  have recognised : identifyExt2FS (easternHost.identifyFile "fs.img") = true :=
    CarveDump.dumpHost_recognised
  have rejected : identifyExt2FS (easternHost.identifyFile "blocks") = false :=
    CarveDump.dumpHost_rejected
  constructor
  · rw [Mcarve.main_parsed image, Mcarve.carve_image _ reader.fourK recognised rfl]
    exact (scan_served (Ext2BlockReader.serves reader.space) held _ _).1
  · rw [Mcarve.main_parsed dump, Mcarve.carve_plain _ rejected rfl]
    exact (scan_served (FileBlockReader.serves (Dump.dataFile Dump.fourBlockFs))
      (FileBlockReader.steady_ofDevice _ CarveDump.fourBlock_small) _ _).1

theorem eastern_read_back :
    (Mcarve.main easternHost ["mcarve", "fs.img"]).cout =
        (Mcarve.main easternHost ["mcarve", "blocks"]).cout ↔
      outline (findings (Mcarve.main easternHost ["mcarve", "fs.img"]).examined) =
        outline (findings (Mcarve.main easternHost ["mcarve", "blocks"]).examined) :=
  output_read_back easternHost easternHost ["mcarve", "fs.img"] ["mcarve", "blocks"]
    ⟨"fs.img", none, none⟩ ⟨"blocks", none, none⟩ rfl rfl eastern_normal.1 eastern_normal.2

end MinecraftCarve.ReportText
