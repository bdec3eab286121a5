import MinecraftCarve.Library.Runs

/-! What `mcarve` prints. The loop keeps one counter: while it is positive the line
of a chunk-header group has been begun and not ended. The reports that the text
stands for are the maximal runs of the findings, in the order they are made. -/

namespace MinecraftCarve.Report
open Library.Runs

/-- One visited block with the answers of the three sector tests. -/
structure Visit where
  blk : Nat
  timestamps : Bool
  offsets : Bool
  encodedChunk : Bool
  deriving DecidableEq, Repr

/-- The text printed so far and `chunk_header_count`. A run visits at most 400000
blocks, so the source's `int` counts without overflow. -/
structure Printer where
  cout : String
  chunkHeaderCount : Nat
  deriving DecidableEq, Repr

def Printer.empty : Printer := ⟨"", 0⟩

def Printer.endGroup (printer : Printer) : Printer :=
  if 0 < printer.chunkHeaderCount then
    ⟨printer.cout ++ "[" ++ toString printer.chunkHeaderCount ++ "]\n", 0⟩
  else printer

def Printer.tableLine (blk : Nat) (label : String) (printer : Printer) : Printer :=
  { printer.endGroup with cout := printer.endGroup.cout ++ toString blk ++ label }

def Printer.header (blk : Nat) (printer : Printer) : Printer :=
  if printer.chunkHeaderCount = 0 then
    ⟨printer.cout ++ toString blk ++ ": chunk headers: ", printer.chunkHeaderCount + 1⟩
  else { printer with chunkHeaderCount := printer.chunkHeaderCount + 1 }

/-- The part of the loop body after the three tests. -/
def Printer.visit (printer : Printer) (visit : Visit) : Printer :=
  let printer :=
    if visit.timestamps then printer.tableLine visit.blk ": timestamps\n" else printer
  let printer :=
    if visit.offsets then printer.tableLine visit.blk ": offsets\n" else printer
  if visit.encodedChunk then printer.header visit.blk else printer

def printVisits (visits : List Visit) : Printer :=
  (visits.foldl Printer.visit Printer.empty).endGroup

inductive Kind where
  | timestamps
  | offsets
  | chunkHeader
  deriving DecidableEq, Repr

/-- One positive answer of one test. -/
structure Finding where
  kind : Kind
  blk : Nat
  deriving DecidableEq, Repr

def Finding.isHeader (finding : Finding) : Bool := finding.kind == .chunkHeader

def Visit.findings (visit : Visit) : List Finding :=
  (if visit.timestamps then [⟨.timestamps, visit.blk⟩] else []) ++
    (if visit.offsets then [⟨.offsets, visit.blk⟩] else []) ++
    (if visit.encodedChunk then [⟨.chunkHeader, visit.blk⟩] else [])

/-- One line of output. -/
inductive Line where
  | timestamps (blk : Nat)
  | offsets (blk : Nat)
  | chunkHeaders (blk count : Nat)
  deriving DecidableEq, Repr

def Line.text : Line → String
  | .timestamps blk => toString blk ++ ": timestamps\n"
  | .offsets blk => toString blk ++ ": offsets\n"
  | .chunkHeaders blk count =>
      toString blk ++ ": chunk headers: " ++ "[" ++ toString count ++ "]\n"

def Line.ofRun : List Finding → Option Line
  | [] => none
  | ⟨.timestamps, blk⟩ :: _ => some (.timestamps blk)
  | ⟨.offsets, blk⟩ :: _ => some (.offsets blk)
  | ⟨.chunkHeader, blk⟩ :: rest => some (.chunkHeaders blk (rest.length + 1))

/-- The lines that a sequence of findings calls for. -/
def lines (findings : List Finding) : List Line :=
  (runs Finding.isHeader findings).filterMap Line.ofRun

def text (report : List Line) : String := String.join (report.map Line.text)

/-- The begun part of a group's line. -/
def opening : List Finding → String
  | [] => ""
  | first :: _ => toString first.blk ++ ": chunk headers: "

/-- The printer has written the lines of `closed` and begun the one of `group`. -/
structure Printed (closed group : List Finding) (printer : Printer) : Prop where
  ended : ∀ last ∈ closed.getLast?, last.isHeader = false
  headers : ∀ finding ∈ group, finding.isHeader = true
  count : printer.chunkHeaderCount = group.length
  cout : printer.cout = text (lines closed) ++ opening group

def Prints (findings : List Finding) (printer : Printer) : Prop :=
  ∃ closed group, findings = closed ++ group ∧ Printed closed group printer

theorem prints_empty : Prints [] Printer.empty :=
  ⟨[], [], rfl, ⟨by simp, by simp, rfl, rfl⟩⟩

theorem lines_append_alone (findings : List Finding) {finding : Finding} {line : Line}
    (alone : finding.isHeader = false) (shape : Line.ofRun [finding] = some line) :
    lines (findings ++ [finding]) = lines findings ++ [line] := by
  rw [lines, runs_append_alone findings alone, List.filterMap_append]
  simp [lines, shape]

theorem text_append (report more : List Line) : text (report ++ more) = text report ++ text more := by
  rw [text, List.map_append, String.join_append]
  rfl

theorem opening_group {group : List Finding} (headers : ∀ finding ∈ group, finding.isHeader = true)
    (nonempty : group ≠ []) : ∃ line, Line.ofRun group = some line ∧
      line.text = opening group ++ "[" ++ toString group.length ++ "]\n" := by
  match group with
  | ⟨kind, blk⟩ :: rest =>
    have header : kind = .chunkHeader := by simpa [Finding.isHeader] using headers _ (List.mem_cons_self ..)
    subst header
    exact ⟨_, rfl, rfl⟩

/-- Ending the open group leaves the lines of everything found so far. -/
theorem endGroup_spec {closed group : List Finding} {printer : Printer}
    (printed : Printed closed group printer) :
    printer.endGroup = ⟨text (lines (closed ++ group)), 0⟩ := by
  unfold Printer.endGroup
  by_cases open_group : group = []
  · subst open_group
    have zero : printer.chunkHeaderCount = 0 := printed.count
    have cout := printed.cout
    rw [if_neg (by omega), List.append_nil]
    cases printer
    simp_all [opening]
  · have positive : 0 < printer.chunkHeaderCount := by
      rw [printed.count]
      exact List.length_pos_of_ne_nil open_group
    obtain ⟨line, shape, lineText⟩ := opening_group printed.headers open_group
    have last : lines (closed ++ group) = lines closed ++ [line] := by
      rw [lines, runs_append_run printed.ended printed.headers open_group, List.filterMap_append]
      simp [lines, shape]
    rw [if_pos positive, last, text_append, printed.cout, printed.count]
    simp [text, lineText, String.append_assoc]

theorem tableLine_prints {findings : List Finding} {printer : Printer} (finding : Finding)
    {line : Line} {label : String} (prints : Prints findings printer)
    (alone : finding.isHeader = false) (shape : Line.ofRun [finding] = some line)
    (lineText : line.text = toString finding.blk ++ label) :
    Prints (findings ++ [finding]) (printer.tableLine finding.blk label) := by
  obtain ⟨closed, group, rfl, printed⟩ := prints
  refine ⟨closed ++ group ++ [finding], [], by simp, ?_, by simp, ?_, ?_⟩
  · intro last member
    obtain rfl : finding = last := by simpa using member
    exact alone
  · simp [Printer.tableLine, endGroup_spec printed]
  · rw [lines_append_alone _ alone shape, text_append]
    simp [Printer.tableLine, endGroup_spec printed, opening, text, lineText, String.append_assoc]

theorem header_prints {findings : List Finding} {printer : Printer} (blk : Nat)
    (prints : Prints findings printer) :
    Prints (findings ++ [⟨.chunkHeader, blk⟩]) (printer.header blk) := by
  obtain ⟨closed, group, rfl, printed⟩ := prints
  refine ⟨closed, group ++ [⟨.chunkHeader, blk⟩], by simp, printed.ended, ?_, ?_, ?_⟩
  · intro finding member
    rcases List.mem_append.mp member with old | new
    · exact printed.headers finding old
    · rw [List.mem_singleton.mp new]
      rfl
  · unfold Printer.header
    split <;> simp [printed.count]
  · unfold Printer.header
    cases group with
    | nil =>
      have zero : printer.chunkHeaderCount = 0 := printed.count
      rw [if_pos zero]
      simp [printed.cout, opening, String.append_assoc]
    | cons first rest =>
      rw [if_neg (by simp [printed.count])]
      exact printed.cout

theorem prints_optional {findings : List Finding} {finding : Finding} {printer next : Printer}
    (test : Bool) (prints : Prints findings printer)
    (step : Prints findings printer → Prints (findings ++ [finding]) next) :
    Prints (findings ++ if test then [finding] else []) (if test then next else printer) := by
  cases test with
  | false => simpa using prints
  | true => exact step prints

/-- One visited block adds its findings, whatever combination of tests held. -/
theorem visit_prints {findings : List Finding} {printer : Printer} (visit : Visit)
    (prints : Prints findings printer) :
    Prints (findings ++ visit.findings) (printer.visit visit) := by
  have first := prints_optional visit.timestamps prints
    (fun so_far => tableLine_prints ⟨.timestamps, visit.blk⟩ so_far rfl rfl rfl)
  have second := prints_optional visit.offsets first
    (fun so_far => tableLine_prints ⟨.offsets, visit.blk⟩ so_far rfl rfl rfl)
  have third := prints_optional visit.encodedChunk second (header_prints visit.blk)
  rw [Visit.findings, ← List.append_assoc, ← List.append_assoc]
  exact third

theorem visits_print (visits : List Visit) {findings : List Finding} {printer : Printer}
    (prints : Prints findings printer) :
    Prints (findings ++ visits.flatMap Visit.findings) (visits.foldl Printer.visit printer) := by
  induction visits generalizing findings printer with
  | nil => simpa using prints
  | cons visit rest ih =>
    rw [List.flatMap_cons, List.foldl_cons, ← List.append_assoc]
    exact ih (visit_prints visit prints)

/-- The text of a whole run is that of its reports, and no group is left open. -/
theorem printVisits_eq (visits : List Visit) :
    printVisits visits = ⟨text (lines (visits.flatMap Visit.findings)), 0⟩ := by
  obtain ⟨closed, group, split, printed⟩ := visits_print visits prints_empty
  rw [printVisits, endGroup_spec printed, ← split, List.nil_append]

/-! Printing only adds to what has been printed. -/

theorem endGroup_grows (printer : Printer) :
    printer.cout.toList <+: printer.endGroup.cout.toList := by
  unfold Printer.endGroup
  split
  · rw [String.toList_append, String.toList_append, String.toList_append, List.append_assoc,
      List.append_assoc]
    exact List.prefix_append _ _
  · exact List.prefix_refl _

theorem tableLine_grows (blk : Nat) (label : String) (printer : Printer) :
    printer.cout.toList <+: (printer.tableLine blk label).cout.toList := by
  refine (endGroup_grows printer).trans ?_
  rw [Printer.tableLine, String.toList_append, String.toList_append, List.append_assoc]
  exact List.prefix_append _ _

theorem header_grows (blk : Nat) (printer : Printer) :
    printer.cout.toList <+: (printer.header blk).cout.toList := by
  unfold Printer.header
  split
  · rw [String.toList_append, String.toList_append, List.append_assoc]
    exact List.prefix_append _ _
  · exact List.prefix_refl _

theorem visit_grows (printer : Printer) (visit : Visit) :
    printer.cout.toList <+: (printer.visit visit).cout.toList := by
  have optional : ∀ (test : Bool) (before after : Printer),
      before.cout.toList <+: after.cout.toList →
      before.cout.toList <+: (if test then after else before).cout.toList := by
    intro test before after grows
    cases test with
    | false => exact List.prefix_refl _
    | true => exact grows
  unfold Printer.visit
  exact ((optional _ _ _ (tableLine_grows _ _ _)).trans
    (optional _ _ _ (tableLine_grows _ _ _))).trans (optional _ _ _ (header_grows _ _))

theorem visits_grow (visits : List Visit) (printer : Printer) :
    printer.cout.toList <+: (visits.foldl Printer.visit printer).cout.toList := by
  induction visits generalizing printer with
  | nil => exact List.prefix_refl _
  | cons visit rest ih => exact (visit_grows printer visit).trans (ih _)

end MinecraftCarve.Report
