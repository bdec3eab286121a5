import MinecraftCarve.Report
import MinecraftCarve.Library.Terminated
import Mathlib.Tactic.Linarith

/-! What the lines of a report say about the findings: the tables in order, every
run of chunk headers with its first block and its length, and no header lost. The
text of a report can be read in one way only. -/

namespace MinecraftCarve.Report
open Library.Runs Library.Terminated

def Line.isTable : Line → Bool
  | .chunkHeaders _ _ => false
  | _ => true

/-- The number of headers that a line accounts for. -/
def Line.headerCount : Line → Nat
  | .chunkHeaders _ count => count
  | _ => 0

/-- The line of a finding that stands alone. -/
def Finding.line (finding : Finding) : Line :=
  match finding.kind with
  | .timestamps => .timestamps finding.blk
  | .offsets => .offsets finding.blk
  | .chunkHeader => .chunkHeaders finding.blk 1

/-- A lone table finding, or a run of headers. -/
def Piece (group : List Finding) : Prop :=
  (∃ finding, group = [finding] ∧ finding.isHeader = false) ∨
    (group ≠ [] ∧ ∀ finding ∈ group, finding.isHeader = true)

/-- How the lines of a report stand for findings. -/
structure Reports (findings : List Finding) (report : List Line) : Prop where
  groups : ∃ groups : List (List Finding), groups.flatten = findings ∧
    (∀ group ∈ groups, Piece group) ∧
    groups.IsChain (fun first second => ¬((∀ finding ∈ first, finding.isHeader = true) ∧
      ∀ finding ∈ second, finding.isHeader = true)) ∧
    List.Forall₂ (fun group line => Line.ofRun group = some line) groups report
  tables : report.filter Line.isTable =
    (findings.filter (fun finding => !finding.isHeader)).map Finding.line
  positive : ∀ line ∈ report, line.isTable = false → 1 ≤ line.headerCount
  total : (report.map Line.headerCount).sum = findings.countP Finding.isHeader

theorem piece_table {finding : Finding} (alone : finding.isHeader = false) :
    Line.ofRun [finding] = some finding.line ∧ finding.line.isTable = true ∧
      finding.line.headerCount = 0 := by
  obtain ⟨kind, blk⟩ := finding
  cases kind with
  | timestamps => exact ⟨rfl, rfl, rfl⟩
  | offsets => exact ⟨rfl, rfl, rfl⟩
  | chunkHeader => cases alone

theorem piece_headers {group : List Finding} (nonempty : group ≠ [])
    (headers : ∀ finding ∈ group, finding.isHeader = true) :
    ∃ line, Line.ofRun group = some line ∧ line.isTable = false ∧
      line.headerCount = group.length := by
  match group with
  | ⟨kind, blk⟩ :: rest =>
    have header := headers _ (List.mem_cons_self ..)
    cases kind with
    | timestamps => cases header
    | offsets => cases header
    | chunkHeader => exact ⟨_, rfl, rfl, rfl⟩

theorem runs_pieces (findings : List Finding) :
    ∀ group ∈ runs Finding.isHeader findings, Piece group := by
  intro group member
  rcases runs_shape member with alone | headers
  · exact Or.inl alone
  · exact Or.inr ⟨runs_nonempty findings group member, headers⟩

theorem pieces_lines {groups : List (List Finding)} (pieces : ∀ group ∈ groups, Piece group) :
    List.Forall₂ (fun group line => Line.ofRun group = some line) groups
      (groups.filterMap Line.ofRun) := by
  induction groups with
  | nil => exact .nil
  | cons group rest ih =>
    obtain ⟨piece, others⟩ := List.forall_mem_cons.mp pieces
    obtain ⟨line, shape⟩ : ∃ line, Line.ofRun group = some line := by
      rcases piece with ⟨finding, rfl, alone⟩ | ⟨nonempty, headers⟩
      · exact ⟨_, (piece_table alone).1⟩
      · obtain ⟨line, shape, _⟩ := piece_headers nonempty headers
        exact ⟨line, shape⟩
    rw [List.filterMap_cons_some shape]
    exact .cons shape (ih others)

theorem pieces_report {groups : List (List Finding)} (pieces : ∀ group ∈ groups, Piece group) :
    (groups.filterMap Line.ofRun).filter Line.isTable =
        (groups.flatten.filter (fun finding => !finding.isHeader)).map Finding.line ∧
      (∀ line ∈ groups.filterMap Line.ofRun, line.isTable = false → 1 ≤ line.headerCount) ∧
      ((groups.filterMap Line.ofRun).map Line.headerCount).sum =
        groups.flatten.countP Finding.isHeader := by
  induction groups with
  | nil => simp
  | cons group rest ih =>
    obtain ⟨piece, others⟩ := List.forall_mem_cons.mp pieces
    obtain ⟨tables, positive, total⟩ := ih others
    rw [List.flatten_cons, List.filter_append, List.map_append, List.countP_append, ← tables, ← total]
    rcases piece with ⟨finding, rfl, alone⟩ | ⟨nonempty, headers⟩
    · obtain ⟨shape, table, none⟩ := piece_table alone
      rw [List.filterMap_cons_some shape]
      refine ⟨by simp [table, alone], ?_, by simp [none, alone]⟩
      exact List.forall_mem_cons.mpr ⟨fun header => absurd table (by simp [header]), positive⟩
    · obtain ⟨line, shape, header, count⟩ := piece_headers nonempty headers
      have no_table : group.filter (fun finding => !finding.isHeader) = [] :=
        List.filter_eq_nil_iff.mpr (fun finding member => by simp [headers finding member])
      have all : group.countP Finding.isHeader = group.length := List.countP_eq_length.mpr headers
      rw [List.filterMap_cons_some shape, no_table, all]
      refine ⟨by simp [header], ?_, by simp [count]⟩
      refine List.forall_mem_cons.mpr ⟨fun _ => ?_, positive⟩
      rw [count]
      exact List.length_pos_of_ne_nil nonempty

theorem lines_report (findings : List Finding) : Reports findings (lines findings) := by
  have pieces := runs_pieces findings
  obtain ⟨tables, positive, total⟩ := pieces_report pieces
  rw [runs_flatten] at tables total
  exact ⟨⟨runs Finding.isHeader findings, runs_flatten findings, pieces, runs_maximal findings,
    pieces_lines pieces⟩, tables, positive, total⟩

/-- A table line is in a report just when its finding was made. -/
theorem table_mem_lines {findings : List Finding} (finding : Finding)
    (table : finding.isHeader = false) : finding.line ∈ lines findings ↔ finding ∈ findings := by
  have tables := (lines_report findings).tables
  have isTable := (piece_table table).2.1
  rw [← List.mem_filter.trans (and_iff_left isTable), tables, List.mem_map]
  constructor
  · intro found
    obtain ⟨other, member, same⟩ := found
    obtain ⟨found, alone⟩ := List.mem_filter.mp member
    have equal : other = finding := by
      obtain ⟨kind, blk⟩ := finding
      obtain ⟨otherKind, otherBlk⟩ := other
      cases kind <;> cases otherKind <;> simp_all [Finding.line, Finding.isHeader]
    exact equal ▸ found
  · intro found
    exact ⟨finding, List.mem_filter.mpr ⟨found, by simp [table]⟩, rfl⟩

def Visit.answer (visit : Visit) : Kind → Bool
  | .timestamps => visit.timestamps
  | .offsets => visit.offsets
  | .chunkHeader => visit.encodedChunk

theorem mem_findings (visit : Visit) (finding : Finding) :
    finding ∈ visit.findings ↔ visit.blk = finding.blk ∧ visit.answer finding.kind = true := by
  obtain ⟨kind, blk⟩ := finding
  obtain ⟨own, timestamps, offsets, encodedChunk⟩ := visit
  cases kind <;> cases timestamps <;> cases offsets <;> cases encodedChunk <;>
    simp [Visit.findings, Visit.answer, eq_comm]

theorem countP_findings (visits : List Visit) :
    (visits.flatMap Visit.findings).countP Finding.isHeader =
      visits.countP (fun visit => visit.encodedChunk) := by
  induction visits with
  | nil => rfl
  | cons visit rest ih =>
    rw [List.flatMap_cons, List.countP_append, ih, List.countP_cons, Nat.add_comm]
    congr 1
    obtain ⟨blk, timestamps, offsets, encodedChunk⟩ := visit
    cases timestamps <;> cases offsets <;> cases encodedChunk <;> rfl

/-! The way back from the text to the lines. -/

def digits (number : Nat) : List Char := (toString number).toList

theorem digits_eq (number : Nat) : digits number = Nat.toDigits 10 number := by
  rw [digits, Nat.toString_eq_repr, Nat.toList_repr]

theorem not_mem_digits (number : Nat) {c : Char} (mark : c.isDigit = false) : c ∉ digits number := by
  intro member
  rw [digits_eq] at member
  have digit := Nat.isDigit_of_mem_toDigits (by decide) (by decide) member
  rw [digit] at mark
  cases mark

theorem digits_injective {first second : Nat} (same : digits first = digits second) :
    first = second := by
  have values := congrArg (fun chars => Nat.ofDigitChars 10 chars 0) same
  simpa only [digits_eq, Nat.ofDigitChars_ten_toDigits] using values

/-- A line without the line break. -/
def Line.body : Line → List Char
  | .timestamps blk => digits blk ++ ':' :: " timestamps".toList
  | .offsets blk => digits blk ++ ':' :: " offsets".toList
  | .chunkHeaders blk count =>
      digits blk ++ ':' :: (" chunk headers: [".toList ++ (digits count ++ "]".toList))

theorem text_toList (line : Line) : line.text.toList = line.body ++ ['\n'] := by
  cases line <;> simp [Line.text, Line.body, digits]

theorem body_clean (line : Line) : '\n' ∉ line.body := by
  have clean := fun number => not_mem_digits number (c := '\n') rfl
  cases line <;> simp [Line.body, clean]

theorem body_injective {first second : Line} (same : first.body = second.body) : first = second := by
  have clean := fun number => not_mem_digits number (c := ':') rfl
  match first, second with
  | .timestamps _, .timestamps _ =>
    rw [digits_injective (split_first (clean _) (clean _) same).1]
  | .offsets _, .offsets _ =>
    rw [digits_injective (split_first (clean _) (clean _) same).1]
  | .chunkHeaders _ _, .chunkHeaders _ _ =>
    obtain ⟨blk, rest⟩ := split_first (clean _) (clean _) same
    have count := List.append_cancel_right (List.append_cancel_left rest)
    rw [digits_injective blk, digits_injective count]
  | .timestamps _, .offsets _ | .offsets _, .timestamps _ =>
    exact absurd (split_first (clean _) (clean _) same).2 (by simp)
  | .timestamps _, .chunkHeaders _ _ | .chunkHeaders _ _, .timestamps _ =>
    exact absurd (split_first (clean _) (clean _) same).2 (by simp)
  | .offsets _, .chunkHeaders _ _ | .chunkHeaders _ _, .offsets _ =>
    exact absurd (split_first (clean _) (clean _) same).2 (by simp)

theorem report_toList (report : List Line) :
    (text report).toList = terminated '\n' (report.map Line.body) := by
  rw [text, String.toList_join, terminated, List.flatMap_map, List.flatMap_map]
  simp only [text_toList]

/-- Two reports with the same text are the same. -/
theorem text_injective {first second : List Line} (same : text first = text second) :
    first = second := by
  have bodies : first.map Line.body = second.map Line.body := by
    apply terminated_injective '\n'
    · exact List.forall_mem_map.mpr (fun line _ => body_clean line)
    · exact List.forall_mem_map.mpr (fun line _ => body_clean line)
    · rw [← report_toList, ← report_toList, same]
  exact List.map_injective_iff.mpr (fun _ _ => body_injective) bodies

end MinecraftCarve.Report
