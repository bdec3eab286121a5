import MinecraftCarve.ReportLines

/-! Reports of successive findings. What is found first and what is found afterwards make
one report, in which a group of headers that goes across the border is one line. -/

namespace MinecraftCarve.ReportJoin
open Report Library.Runs

/-- A line in front of a report, whose first line may go on with the same group. -/
def joinLine : Line → List Line → List Line
  | .chunkHeaders blk count, .chunkHeaders _ more :: rest => .chunkHeaders blk (count + more) :: rest
  | line, rest => line :: rest

/-- One report behind another. -/
def join : List Line → List Line → List Line
  | [], behind => behind
  | [last], behind => joinLine last behind
  | line :: next :: report, behind => line :: join (next :: report) behind

theorem joinLine_table {line : Line} {behind : List Line}
    (apart : line.isTable = true ∨ ∀ first ∈ behind.head?, first.isTable = true) :
    joinLine line behind = line :: behind := by
  cases line with
  | timestamps blk => rfl
  | offsets blk => rfl
  | chunkHeaders blk count =>
    cases behind with
    | nil => rfl
    | cons first rest =>
      cases first with
      | timestamps other => rfl
      | offsets other => rfl
      | chunkHeaders other more =>
        rcases apart with table | tables
        · cases table
        · cases tables _ rfl

/-- Reports with a table at the border stand one behind the other. -/
theorem join_apart {report behind : List Line}
    (apart : (∀ last ∈ report.getLast?, last.isTable = true) ∨
      ∀ first ∈ behind.head?, first.isTable = true) : join report behind = report ++ behind := by
  fun_induction join report behind with
  | case1 behind => rfl
  | case2 last behind => exact joinLine_table (apart.imp_left (fun tables => tables last rfl))
  | case3 line next report behind ih =>
    rw [List.getLast?_cons_cons] at apart
    rw [ih apart]
    rfl

theorem join_group (report rest : List Line) (blk other count more : Nat) :
    join (report ++ [.chunkHeaders blk count]) (.chunkHeaders other more :: rest) =
      report ++ .chunkHeaders blk (count + more) :: rest := by
  induction report with
  | nil => rfl
  | cons line report ih =>
    cases report with
    | nil => rfl
    | cons next report =>
      change line :: join ((next :: report) ++ [.chunkHeaders blk count]) _ = _
      rw [ih]
      rfl

theorem ofRun_headers {group : List Finding} (nonempty : group ≠ [])
    (headers : ∀ finding ∈ group, finding.isHeader = true) :
    ∃ blk, ∀ more : List Finding,
      Line.ofRun (group ++ more) = some (.chunkHeaders blk (group.length + more.length)) := by
  cases group with
  | nil => exact absurd rfl nonempty
  | cons first rest =>
    have header := headers first (List.mem_cons_self ..)
    obtain ⟨kind, blk⟩ := first
    cases kind with
    | timestamps => cases header
    | offsets => cases header
    | chunkHeader =>
      refine ⟨blk, fun more => ?_⟩
      simp only [List.cons_append, Line.ofRun, List.length_append, List.length_cons]
      congr 2
      omega

/-- The last line of a report is a table if its last finding is. -/
theorem last_table {made : List Finding} (ended : ∀ last ∈ made.getLast?, last.isHeader = false) :
    ∀ line ∈ (lines made).getLast?, line.isTable = true := by
  rcases List.eq_nil_or_concat' made with rfl | ⟨before, last, rfl⟩
  · simp [lines, runs]
  · have alone := ended last (by simp)
    obtain ⟨shape, table, _⟩ := piece_table alone
    rw [lines_append_alone before alone shape]
    intro line member
    obtain rfl : last.line = line := by simpa using member
    exact table

theorem lines_cons_alone {finding : Finding} (rest : List Finding)
    (alone : finding.isHeader = false) : lines (finding :: rest) = finding.line :: lines rest := by
  have cut : runs Finding.isHeader ([finding] ++ rest) = [[finding]] ++ runs Finding.isHeader rest := by
    rw [runs_append]
    · rfl
    · intro last member head _
      obtain rfl : finding = last := by simpa using member
      simp [alone]
  rw [lines, ← List.singleton_append, cut, List.singleton_append,
    List.filterMap_cons_some (piece_table alone).1]
  rfl

theorem first_table {made : List Finding} (begins : ∀ first ∈ made.head?, first.isHeader = false) :
    ∀ line ∈ (lines made).head?, line.isTable = true := by
  cases made with
  | nil => simp [lines, runs]
  | cons finding rest =>
    have alone := begins finding rfl
    rw [lines_cons_alone rest alone]
    intro line member
    obtain rfl : finding.line = line := by simpa using member
    exact (piece_table alone).2.1

/-- The report of two lists of findings is made of their reports. -/
theorem lines_append (made more : List Finding) :
    lines (made ++ more) = join (lines made) (lines more) := by
  obtain ⟨closed, group, rfl, ended, headers⟩ := exists_last_run Finding.isHeader made
  obtain ⟨other, rest, rfl, otherHeaders, begins⟩ := exists_first_run Finding.isHeader more
  by_cases none : group = []
  · subst none
    rw [List.append_nil, join_apart (Or.inl (last_table ended)), lines, runs_append, List.filterMap_append]
    · rfl
    · intro last member head _
      rw [ended last member, Bool.false_and]
  · by_cases noneToo : other = []
    · subst noneToo
      rw [List.nil_append, join_apart (Or.inr (first_table begins)), lines, runs_append,
        List.filterMap_append]
      · rfl
      · intro last _ head member
        rw [begins head member, Bool.and_false]
    · obtain ⟨blk, shape⟩ := ofRun_headers none headers
      obtain ⟨otherBlk, otherShape⟩ := ofRun_headers noneToo otherHeaders
      have alone := shape []
      have otherAlone := otherShape []
      rw [List.append_nil, List.length_nil, Nat.add_zero] at alone otherAlone
      have made : lines (closed ++ group) = lines closed ++ [.chunkHeaders blk group.length] := by
        rw [lines, runs_append_run ended headers none, List.filterMap_append]
        simp [lines, alone]
      have more : lines (other ++ rest) = .chunkHeaders otherBlk other.length :: lines rest := by
        rw [lines, runs_run_append otherHeaders noneToo begins, List.filterMap_cons_some otherAlone]
        rfl
      have both : lines (closed ++ ((group ++ other) ++ rest)) =
          lines closed ++ .chunkHeaders blk (group.length + other.length) :: lines rest := by
        have together : ∀ finding ∈ group ++ other, finding.isHeader = true :=
          List.forall_mem_append.mpr ⟨headers, otherHeaders⟩
        have nonempty : group ++ other ≠ [] := by simp [none]
        rw [lines, runs_append, runs_run_append together nonempty begins, List.filterMap_append,
          List.filterMap_cons_some (shape other)]
        · rfl
        · intro last member head _
          rw [ended last member, Bool.false_and]
      rw [made, more, join_group, ← both, List.append_assoc, List.append_assoc]

end MinecraftCarve.ReportJoin
