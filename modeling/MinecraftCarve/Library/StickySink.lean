import Mathlib.Data.List.Basic

/-! An output stream with a failure state that stays set. Writes are accepted into a
buffer and reach the file at times of the device's choosing; a failed operation
leaves the file with some prefix of what it was given and turns every later
operation into a no-op. Closing the stream is no operation in this sense: it writes
what is in the buffer, and after a failure the buffer still holds what it held before. -/

namespace MinecraftCarve.Library.StickySink

/-- What the device does at one operation, with how far the file has grown by then. -/
inductive SinkEvent where
  | done (reached : Nat)
  | failed (reached : Nat)
  deriving DecidableEq

def SinkEvent.Done : SinkEvent → Prop
  | .done _ => True
  | .failed _ => False

/-- After a failed operation nothing that the device is asked for succeeds, and nothing
more comes to the file. -/
def Lasting (device : Nat → SinkEvent) : Prop :=
  ∀ index, ¬(device index).Done → ∀ later, index < later → device later = .failed 0

structure Sink (β : Type*) where
  isOpen : Bool
  bad : Bool
  accepted : List β
  /-- What the stream has brought to its file, from the beginning of the file on. -/
  file : List β
  /-- What the buffer held before the operation that failed. -/
  held : List β
  device : Nat → SinkEvent
  used : Nat

variable {β : Type*}

/-- A stream that was never opened. -/
def Sink.unopened : Sink β := ⟨false, false, [], [], [], fun _ => .done 0, 0⟩

def Sink.opened (device : Nat → SinkEvent) : Sink β := ⟨true, false, [], [], [], device, 0⟩

def Sink.write (sink : Sink β) (data : List β) : Sink β :=
  if sink.bad then sink
  else if !sink.isOpen then { sink with bad := true }
  else
    match sink.device sink.used with
    | .done reached =>
      { sink with
        accepted := sink.accepted ++ data
        file := (sink.accepted ++ data).take (max sink.file.length reached)
        used := sink.used + 1 }
    | .failed reached =>
      { sink with
        bad := true
        file := (sink.accepted ++ data).take (max sink.file.length reached)
        held := sink.accepted.drop sink.file.length
        used := sink.used + 1 }

def Sink.flush (sink : Sink β) : Sink β :=
  if sink.bad then sink
  else if !sink.isOpen then sink
  else
    match sink.device sink.used with
    | .done _ => { sink with file := sink.accepted, used := sink.used + 1 }
    | .failed reached =>
      { sink with
        bad := true
        file := sink.accepted.take (max sink.file.length reached)
        held := sink.accepted.drop sink.file.length
        used := sink.used + 1 }

/-- What a stream would still write to its file. -/
def Sink.pending (sink : Sink β) : List β :=
  if sink.bad then sink.held else sink.accepted.drop sink.file.length

/-- The end of the stream. Nothing looks at its state after that. -/
def Sink.close (sink : Sink β) : Sink β :=
  if !sink.isOpen || sink.pending.isEmpty then sink
  else
    match sink.device sink.used with
    | .done _ => { sink with file := sink.file ++ sink.pending, used := sink.used + 1 }
    | .failed reached =>
      { sink with
        file := (sink.file ++ sink.pending).take (max sink.file.length reached)
        used := sink.used + 1 }

/-- The failure state records every failure of an operation so far. -/
def Sink.Honest (sink : Sink β) : Prop :=
  sink.bad = false → ∀ index < sink.used, (sink.device index).Done

theorem Sink.honest_opened (device : Nat → SinkEvent) : (Sink.opened device : Sink β).Honest := by
  intro _ index early
  exact absurd early (Nat.not_lt_zero index)

/-- Everything that a write can do. -/
theorem Sink.write_cases (sink : Sink β) (data : List β) :
    (sink.bad = true ∧ sink.write data = sink) ∨
      (sink.bad = false ∧ sink.isOpen = false ∧ sink.write data = { sink with bad := true }) ∨
      (sink.bad = false ∧ sink.isOpen = true ∧ ∃ reached,
        (sink.device sink.used = .done reached ∧
          sink.write data = { sink with
            accepted := sink.accepted ++ data
            file := (sink.accepted ++ data).take (max sink.file.length reached)
            used := sink.used + 1 }) ∨
        (sink.device sink.used = .failed reached ∧
          sink.write data = { sink with
            bad := true
            file := (sink.accepted ++ data).take (max sink.file.length reached)
            held := sink.accepted.drop sink.file.length
            used := sink.used + 1 })) := by
  unfold Sink.write
  cases bad : sink.bad with
  | true => exact Or.inl ⟨rfl, rfl⟩
  | false =>
    right
    cases opened : sink.isOpen with
    | false => exact Or.inl ⟨rfl, rfl, rfl⟩
    | true =>
      refine Or.inr ⟨rfl, rfl, ?_⟩
      cases event : sink.device sink.used with
      | done reached => exact ⟨reached, Or.inl ⟨rfl, rfl⟩⟩
      | failed reached => exact ⟨reached, Or.inr ⟨rfl, rfl⟩⟩

/-- Everything that a flush can do. -/
theorem Sink.flush_cases (sink : Sink β) :
    (sink.bad = true ∧ sink.flush = sink) ∨
      (sink.bad = false ∧ sink.isOpen = false ∧ sink.flush = sink) ∨
      (sink.bad = false ∧ sink.isOpen = true ∧ ∃ reached,
        (sink.device sink.used = .done reached ∧
          sink.flush = { sink with file := sink.accepted, used := sink.used + 1 }) ∨
        (sink.device sink.used = .failed reached ∧
          sink.flush = { sink with
            bad := true
            file := sink.accepted.take (max sink.file.length reached)
            held := sink.accepted.drop sink.file.length
            used := sink.used + 1 })) := by
  unfold Sink.flush
  cases bad : sink.bad with
  | true => exact Or.inl ⟨rfl, rfl⟩
  | false =>
    right
    cases opened : sink.isOpen with
    | false => exact Or.inl ⟨rfl, rfl, rfl⟩
    | true =>
      refine Or.inr ⟨rfl, rfl, ?_⟩
      cases event : sink.device sink.used with
      | done reached => exact ⟨reached, Or.inl ⟨rfl, rfl⟩⟩
      | failed reached => exact ⟨reached, Or.inr ⟨rfl, rfl⟩⟩

/-- Everything that a close can do. -/
theorem Sink.close_cases (sink : Sink β) :
    sink.close = sink ∨
      (sink.isOpen = true ∧ sink.device sink.used ≠ .failed 0 ∧ ∃ reached,
        sink.close = { sink with
          file := (sink.file ++ sink.pending).take (max sink.file.length reached)
          used := sink.used + 1 }) ∨
      sink.close = { sink with used := sink.used + 1 } := by
  unfold Sink.close
  by_cases nothing : (!sink.isOpen || sink.pending.isEmpty) = true
  · exact Or.inl (if_pos nothing)
  · obtain ⟨opened, -⟩ := Bool.or_eq_false_iff.mp (Bool.not_eq_true _ ▸ nothing)
    have isOpen : sink.isOpen = true := by simpa using opened
    rw [if_neg nothing]
    right
    cases event : sink.device sink.used with
    | done reached =>
      refine Or.inl ⟨isOpen, by simp, (sink.file ++ sink.pending).length, ?_⟩
      rw [List.take_of_length_le (Nat.le_max_right _ _)]
    | failed reached =>
      cases reached with
      | zero =>
        right
        simp
      | succ reached => exact Or.inl ⟨isOpen, by simp, reached + 1, rfl⟩

@[simp] theorem Sink.write_isOpen (sink : Sink β) (data : List β) :
    (sink.write data).isOpen = sink.isOpen := by
  rcases sink.write_cases data with ⟨_, same⟩ | ⟨_, _, same⟩ | ⟨_, _, _, ⟨_, same⟩ | ⟨_, same⟩⟩
  all_goals rw [same]

@[simp] theorem Sink.write_device (sink : Sink β) (data : List β) :
    (sink.write data).device = sink.device := by
  rcases sink.write_cases data with ⟨_, same⟩ | ⟨_, _, same⟩ | ⟨_, _, _, ⟨_, same⟩ | ⟨_, same⟩⟩
  all_goals rw [same]

@[simp] theorem Sink.flush_device (sink : Sink β) : sink.flush.device = sink.device := by
  rcases sink.flush_cases with ⟨_, same⟩ | ⟨_, _, same⟩ | ⟨_, _, _, ⟨_, same⟩ | ⟨_, same⟩⟩
  all_goals rw [same]

@[simp] theorem Sink.flush_accepted (sink : Sink β) : sink.flush.accepted = sink.accepted := by
  rcases sink.flush_cases with ⟨_, same⟩ | ⟨_, _, same⟩ | ⟨_, _, _, ⟨_, same⟩ | ⟨_, same⟩⟩
  all_goals rw [same]

/-- A write is accepted as a whole or not at all. -/
theorem Sink.write_accepted (sink : Sink β) (data : List β) :
    (sink.write data).accepted = sink.accepted ∨
      (sink.write data).accepted = sink.accepted ++ data := by
  rcases sink.write_cases data with ⟨_, same⟩ | ⟨_, _, same⟩ | ⟨_, _, _, ⟨_, same⟩ | ⟨_, same⟩⟩
  · rw [same]
    exact Or.inl rfl
  · rw [same]
    exact Or.inl rfl
  · rw [same]
    exact Or.inr rfl
  · rw [same]
    exact Or.inl rfl

/-- A write that leaves the stream good was accepted in full. -/
theorem Sink.write_good {sink : Sink β} {data : List β} (good : (sink.write data).bad = false) :
    sink.bad = false ∧ (sink.device sink.used).Done ∧
      (sink.write data).accepted = sink.accepted ++ data ∧
      (sink.write data).used = sink.used + 1 := by
  rcases sink.write_cases data with
    ⟨bad, same⟩ | ⟨_, _, same⟩ | ⟨before, _, reached, ⟨event, same⟩ | ⟨_, same⟩⟩
  · rw [same, bad] at good
    cases good
  · rw [same] at good
    cases good
  · rw [same, event]
    exact ⟨before, trivial, rfl, rfl⟩
  · rw [same] at good
    cases good

/-- A flush that leaves an open stream good has brought the file up to date. -/
theorem Sink.flush_good {sink : Sink β} (opened : sink.isOpen = true)
    (good : sink.flush.bad = false) :
    sink.bad = false ∧ (sink.device sink.used).Done ∧ sink.flush.file = sink.accepted ∧
      sink.flush.used = sink.used + 1 := by
  rcases sink.flush_cases with
    ⟨bad, same⟩ | ⟨_, closed, _⟩ | ⟨before, _, reached, ⟨event, same⟩ | ⟨_, same⟩⟩
  · rw [same, bad] at good
    cases good
  · cases opened.symm.trans closed
  · rw [same, event]
    exact ⟨before, trivial, rfl, rfl⟩
  · rw [same] at good
    cases good

theorem Sink.flush_unopened (sink : Sink β) (closed : sink.isOpen = false) : sink.flush = sink := by
  rcases sink.flush_cases with ⟨_, same⟩ | ⟨_, _, same⟩ | ⟨_, opened, _⟩
  · exact same
  · exact same
  · cases opened.symm.trans closed

theorem Sink.write_honest {sink : Sink β} (data : List β) (honest : sink.Honest) :
    (sink.write data).Honest := by
  intro good index early
  obtain ⟨before, event, _, used⟩ := Sink.write_good good
  rw [Sink.write_device]
  rw [used] at early
  rcases Nat.lt_succ_iff_lt_or_eq.mp early with earlier | rfl
  · exact honest before index earlier
  · exact event

theorem Sink.flush_honest {sink : Sink β} (honest : sink.Honest) : sink.flush.Honest := by
  intro good index early
  cases opened : sink.isOpen with
  | false =>
    rw [Sink.flush_unopened sink opened] at good early ⊢
    exact honest good index early
  | true =>
    obtain ⟨before, event, _, used⟩ := Sink.flush_good opened good
    rw [Sink.flush_device]
    rw [used] at early
    rcases Nat.lt_succ_iff_lt_or_eq.mp early with earlier | rfl
    · exact honest before index earlier
    · exact event

/-- On a device that never fails a good open stream stays good. -/
theorem Sink.write_never_fails {sink : Sink β} (data : List β) (opened : sink.isOpen = true)
    (good : sink.bad = false) (device : ∀ index, (sink.device index).Done) :
    (sink.write data).bad = false := by
  rcases sink.write_cases data with
    ⟨bad, _⟩ | ⟨_, closed, _⟩ | ⟨_, _, reached, ⟨_, same⟩ | ⟨event, _⟩⟩
  · cases good.symm.trans bad
  · cases opened.symm.trans closed
  · rw [same]
    exact good
  · have impossible := device sink.used
    rw [event] at impossible
    exact impossible.elim

theorem Sink.flush_never_fails {sink : Sink β} (good : sink.bad = false)
    (device : ∀ index, (sink.device index).Done) : sink.flush.bad = false := by
  rcases sink.flush_cases with
    ⟨bad, _⟩ | ⟨_, _, same⟩ | ⟨_, _, reached, ⟨_, same⟩ | ⟨event, _⟩⟩
  · cases good.symm.trans bad
  · rw [same]
    exact good
  · rw [same]
    exact good
  · have impossible := device sink.used
    rw [event] at impossible
    exact impossible.elim

/-- A stream to a device that was given `data`: it has accepted all of it, unless a
failure shows. -/
structure Sink.Carries (device : Nat → SinkEvent) (data : List β) (sink : Sink β) : Prop where
  isOpen : sink.isOpen = true
  device : sink.device = device
  honest : sink.Honest
  accepted : sink.bad = false → sink.accepted = data

theorem Sink.carries_opened (device : Nat → SinkEvent) :
    Sink.Carries device ([] : List β) (Sink.opened device) :=
  ⟨rfl, rfl, Sink.honest_opened device, fun _ => rfl⟩

theorem Sink.Carries.write {device : Nat → SinkEvent} {data : List β} {sink : Sink β}
    (carries : Sink.Carries device data sink) (more : List β) :
    Sink.Carries device (data ++ more) (sink.write more) where
  isOpen := by rw [Sink.write_isOpen, carries.isOpen]
  device := by rw [Sink.write_device, carries.device]
  honest := Sink.write_honest more carries.honest
  accepted := by
    intro good
    obtain ⟨before, _, accepted, _⟩ := Sink.write_good good
    rw [accepted, carries.accepted before]

/-- A flush that shows no failure has brought all of the data to the file, and no
operation up to it has failed. -/
theorem Sink.Carries.flush {device : Nat → SinkEvent} {data : List β} {sink : Sink β}
    (carries : Sink.Carries device data sink) (good : sink.flush.bad = false) :
    sink.flush.file = data ∧ ∀ index < sink.flush.used, (device index).Done := by
  obtain ⟨before, _, file, _⟩ := Sink.flush_good carries.isOpen good
  have fine := Sink.flush_honest carries.honest good
  rw [Sink.flush_device, carries.device] at fine
  exact ⟨file.trans (carries.accepted before), fine⟩

/-! A stream that is given one piece after the other. -/

def Sink.feed (sink : Sink β) (pieces : List (List β)) : Sink β := pieces.foldl Sink.write sink

theorem Sink.feed_append (sink : Sink β) (first second : List (List β)) :
    sink.feed (first ++ second) = (sink.feed first).feed second := List.foldl_append

theorem Sink.feed_bad {sink : Sink β} (bad : sink.bad = true) (pieces : List (List β)) :
    sink.feed pieces = sink := by
  induction pieces with
  | nil => rfl
  | cons piece rest ih =>
    have same : sink.write piece = sink := if_pos bad
    change (sink.write piece).feed rest = sink
    rw [same, ih]

@[simp] theorem Sink.feed_isOpen (sink : Sink β) (pieces : List (List β)) :
    (sink.feed pieces).isOpen = sink.isOpen := by
  induction pieces generalizing sink with
  | nil => rfl
  | cons piece rest ih => exact (ih _).trans (sink.write_isOpen piece)

@[simp] theorem Sink.feed_device (sink : Sink β) (pieces : List (List β)) :
    (sink.feed pieces).device = sink.device := by
  induction pieces generalizing sink with
  | nil => rfl
  | cons piece rest ih => exact (ih _).trans (sink.write_device piece)

/-- A good open stream stays good just when the device does what the write asks of it. -/
theorem Sink.write_good_iff {sink : Sink β} (opened : sink.isOpen = true) (good : sink.bad = false)
    (data : List β) : (sink.write data).bad = false ↔ (sink.device sink.used).Done := by
  constructor
  · intro still
    exact (Sink.write_good still).2.1
  · intro done
    rcases sink.write_cases data with
      ⟨bad, _⟩ | ⟨_, closed, _⟩ | ⟨_, _, reached, ⟨_, same⟩ | ⟨event, _⟩⟩
    · cases good.symm.trans bad
    · cases opened.symm.trans closed
    · rw [same]
      exact good
    · rw [event] at done
      exact done.elim

theorem Sink.flush_good_iff {sink : Sink β} (opened : sink.isOpen = true) (good : sink.bad = false) :
    sink.flush.bad = false ↔ (sink.device sink.used).Done := by
  constructor
  · intro still
    exact (Sink.flush_good opened still).2.1
  · intro done
    rcases sink.flush_cases with
      ⟨bad, _⟩ | ⟨_, closed, _⟩ | ⟨_, _, reached, ⟨_, same⟩ | ⟨event, _⟩⟩
    · cases good.symm.trans bad
    · cases opened.symm.trans closed
    · rw [same]
      exact good
    · rw [event] at done
      exact done.elim

/-- A stream that is still good has taken every piece at one operation each. -/
theorem Sink.feed_good {sink : Sink β} (pieces : List (List β))
    (good : (sink.feed pieces).bad = false) :
    sink.bad = false ∧ (sink.feed pieces).used = sink.used + pieces.length ∧
      (sink.feed pieces).accepted = sink.accepted ++ pieces.flatten := by
  induction pieces generalizing sink with
  | nil => exact ⟨good, rfl, (List.append_nil _).symm⟩
  | cons piece rest ih =>
    obtain ⟨still, used, accepted⟩ := @ih (sink.write piece) good
    obtain ⟨before, _, taken, one⟩ := Sink.write_good still
    refine ⟨before, ?_, ?_⟩
    · change ((sink.write piece).feed rest).used = _
      rw [used, one, List.length_cons]
      omega
    · change ((sink.write piece).feed rest).accepted = _
      rw [accepted, taken, List.flatten_cons, List.append_assoc]

theorem Sink.feed_good_iff {sink : Sink β} (opened : sink.isOpen = true) (good : sink.bad = false)
    (pieces : List (List β)) : (sink.feed pieces).bad = false ↔
      ∀ index < pieces.length, (sink.device (sink.used + index)).Done := by
  induction pieces generalizing sink with
  | nil => exact iff_of_true good (fun index early => absurd early (Nat.not_lt_zero index))
  | cons piece rest ih =>
    have first := Sink.write_good_iff opened good piece
    change ((sink.write piece).feed rest).bad = false ↔ _
    cases still : (sink.write piece).bad with
    | true =>
      rw [Sink.feed_bad still, still]
      refine iff_of_false (by simp) ?_
      intro all
      have done := first.mpr (all 0 (Nat.succ_pos _))
      cases still.symm.trans done
    | false =>
      obtain ⟨_, done, _, used⟩ := Sink.write_good still
      rw [ih ((sink.write_isOpen piece).trans opened) still, Sink.write_device, used]
      constructor
      · intro later index early
        cases index with
        | zero => exact done
        | succ index =>
          have shifted := later index (Nat.lt_of_succ_lt_succ early)
          rwa [Nat.add_right_comm] at shifted
      · intro all index early
        have shifted := all (index + 1) (Nat.succ_lt_succ early)
        rwa [← Nat.add_assoc, Nat.add_right_comm] at shifted

/-- Pieces and the final flush go through on just so many operations of the device. -/
theorem Sink.feed_flush_good_iff (device : Nat → SinkEvent) (pieces : List (List β)) :
    ((Sink.opened device).feed pieces).flush.bad = false ↔
      ∀ index ≤ pieces.length, (device index).Done := by
  have writes := @Sink.feed_good_iff _ (Sink.opened device) rfl rfl pieces
  have isOpen : ((Sink.opened device).feed pieces).isOpen = true := Sink.feed_isOpen _ _
  change _ ↔ ∀ index < pieces.length, (device (0 + index)).Done at writes
  constructor
  · intro good index early
    obtain ⟨before, done, _⟩ := Sink.flush_good isOpen good
    rcases Nat.lt_or_eq_of_le early with earlier | rfl
    · simpa using writes.mp before index earlier
    · rwa [(Sink.feed_good _ before).2.1, Sink.feed_device, Sink.opened, Nat.zero_add] at done
  · intro all
    have before := writes.mpr (fun index early => by simpa using all index (Nat.le_of_lt early))
    rw [Sink.flush_good_iff isOpen before, (Sink.feed_good _ before).2.1, Sink.feed_device,
      Sink.opened, Nat.zero_add]
    exact all _ (Nat.le_refl _)

/-! What is in the file, whatever the device does. -/

@[simp] theorem Sink.close_accepted (sink : Sink β) : sink.close.accepted = sink.accepted := by
  rcases sink.close_cases with same | ⟨_, _, _, same⟩ | same
  all_goals rw [same]

/-- A stream whose file is up to date has nothing to write when it is closed. -/
theorem Sink.close_complete {sink : Sink β} (good : sink.bad = false)
    (complete : sink.file = sink.accepted) : sink.close = sink := by
  have nothing : sink.pending = [] := by
    rw [Sink.pending, good, complete]
    exact List.drop_length
  rw [Sink.close, nothing]
  simp

/-- The file of a good stream is not ahead of what was accepted. -/
def Sink.Behind (sink : Sink β) : Prop := sink.bad = false → sink.file <+: sink.accepted

theorem take_grows {before whole : List β} (first : before <+: whole) (reached : Nat) :
    before <+: whole.take (max before.length reached) :=
  List.prefix_take_iff.mpr ⟨first, Nat.le_max_left _ _⟩

theorem Sink.Behind.write {sink : Sink β} (behind : sink.Behind) (data : List β) :
    (sink.write data).Behind ∧ sink.file <+: (sink.write data).file := by
  rcases sink.write_cases data with
    ⟨_, same⟩ | ⟨_, _, same⟩ | ⟨good, _, reached, ⟨_, same⟩ | ⟨_, same⟩⟩
  · rw [same]
    exact ⟨behind, List.prefix_refl _⟩
  · rw [same]
    exact ⟨fun still => (nomatch still), List.prefix_refl _⟩
  · rw [same]
    exact ⟨fun _ => List.take_prefix _ _, take_grows ((behind good).trans (List.prefix_append _ _)) _⟩
  · rw [same]
    exact ⟨fun still => (nomatch still),
      take_grows ((behind good).trans (List.prefix_append _ _)) _⟩

theorem Sink.Behind.flush {sink : Sink β} (behind : sink.Behind) :
    sink.flush.Behind ∧ sink.file <+: sink.flush.file := by
  rcases sink.flush_cases with
    ⟨_, same⟩ | ⟨_, _, same⟩ | ⟨good, _, reached, ⟨_, same⟩ | ⟨_, same⟩⟩
  · rw [same]
    exact ⟨behind, List.prefix_refl _⟩
  · rw [same]
    exact ⟨behind, List.prefix_refl _⟩
  · rw [same]
    exact ⟨fun _ => List.prefix_refl _, behind good⟩
  · rw [same]
    exact ⟨fun still => (nomatch still), take_grows (behind good) _⟩

theorem Sink.close_grows (sink : Sink β) : sink.file <+: sink.close.file := by
  rcases sink.close_cases with same | ⟨_, _, reached, same⟩ | same
  · simp only [same, List.prefix_refl]
  · rw [same]
    exact take_grows (List.prefix_append _ _) _
  · simp only [same, List.prefix_refl]

/-- What holds of a stream to which a beginning of `whole` was given. -/
structure Sink.Within (whole : List β) (sink : Sink β) : Prop where
  accepted : sink.accepted <+: whole
  file : sink.file <+: whole
  held : sink.held <:+: whole
  behind : sink.Behind
  failed : sink.bad = true → sink.isOpen = true → ∃ index < sink.used, ¬(sink.device index).Done

/-- What is in a file that should hold `whole`: a beginning of it and, where a failure of
the device did not last, a stretch of it once more. -/
def Remains (device : Nat → SinkEvent) (whole contents : List β) : Prop :=
  ∃ sent again, contents = sent ++ again ∧ sent <+: whole ∧ again <:+: whole ∧
    (Lasting device → again = [])

theorem Remains.truncated {device : Nat → SinkEvent} {whole contents : List β}
    (remains : Remains device whole contents) (lasting : Lasting device) : contents <+: whole := by
  obtain ⟨sent, again, rfl, first, -, nothing⟩ := remains
  rw [nothing lasting, List.append_nil]
  exact first

section
variable {whole : List β} {sink : Sink β}

theorem Sink.within_fresh (good : sink.bad = false) (accepted : sink.accepted = [])
    (file : sink.file = []) (held : sink.held = []) : sink.Within whole where
  accepted := accepted ▸ List.nil_prefix
  file := file ▸ List.nil_prefix
  held := held ▸ List.nil_infix
  behind _ := file ▸ List.nil_prefix
  failed bad := (nomatch good.symm.trans bad)

theorem Sink.Within.write {data : List β} (within : sink.Within whole)
    (next : sink.bad = false → sink.accepted ++ data <+: whole) : (sink.write data).Within whole := by
  have behind := (within.behind.write data).1
  rcases sink.write_cases data with
    ⟨_, same⟩ | ⟨_, closed, same⟩ | ⟨good, _, reached, ⟨_, same⟩ | ⟨event, same⟩⟩
  · rwa [same]
  · rw [same] at behind ⊢
    exact ⟨within.accepted, within.file, within.held, behind,
      fun _ opened => (nomatch closed.symm.trans opened)⟩
  · rw [same] at behind ⊢
    exact ⟨next good, (List.take_prefix _ _).trans (next good), within.held, behind,
      fun bad => (nomatch good.symm.trans bad)⟩
  · have failure : ¬(sink.device sink.used).Done := by
      rw [event]
      exact id
    rw [same] at behind ⊢
    exact ⟨within.accepted, (List.take_prefix _ _).trans (next good),
      (List.drop_suffix _ _).isInfix.trans within.accepted.isInfix, behind,
      fun _ _ => ⟨sink.used, Nat.lt_succ_self _, failure⟩⟩

theorem Sink.Within.flush (within : sink.Within whole) : sink.flush.Within whole := by
  have behind := within.behind.flush.1
  rcases sink.flush_cases with
    ⟨_, same⟩ | ⟨_, _, same⟩ | ⟨good, _, reached, ⟨_, same⟩ | ⟨event, same⟩⟩
  · rwa [same]
  · rwa [same]
  · rw [same] at behind ⊢
    exact ⟨within.accepted, within.accepted, within.held, behind,
      fun bad => (nomatch good.symm.trans bad)⟩
  · have failure : ¬(sink.device sink.used).Done := by
      rw [event]
      exact id
    rw [same] at behind ⊢
    exact ⟨within.accepted, (List.take_prefix _ _).trans within.accepted,
      (List.drop_suffix _ _).isInfix.trans within.accepted.isInfix, behind,
      fun _ _ => ⟨sink.used, Nat.lt_succ_self _, failure⟩⟩

theorem Sink.Within.feed (pieces : List (List β)) (within : sink.Within whole)
    (next : sink.accepted ++ pieces.flatten <+: whole) : (sink.feed pieces).Within whole := by
  induction pieces generalizing sink with
  | nil => exact within
  | cons piece rest ih =>
    change ((sink.write piece).feed rest).Within whole
    rw [List.flatten_cons, ← List.append_assoc] at next
    have written : (sink.write piece).Within whole :=
      within.write (fun _ => (List.prefix_append _ _).trans next)
    cases good : (sink.write piece).bad with
    | true =>
      rw [Sink.feed_bad good]
      exact written
    | false =>
      refine ih written ?_
      rw [(Sink.write_good good).2.2.1]
      exact next

/-- A stream that is not closed leaves no more than a beginning. -/
theorem Sink.Within.remains (within : sink.Within whole) : Remains sink.device whole sink.file :=
  ⟨sink.file, [], (List.append_nil _).symm, within.file, List.nil_infix, fun _ => rfl⟩

/-- A good stream goes on where it was; one that has failed writes the buffer again. -/
theorem Sink.Within.close (within : sink.Within whole) :
    Remains sink.device whole sink.close.file := by
  rcases sink.close_cases with same | ⟨opened, event, reached, same⟩ | same
  · rw [same]
    exact within.remains
  · rw [same]
    cases good : sink.bad with
    | false =>
      obtain ⟨rest, upToDate⟩ := within.behind good
      have all : sink.file ++ sink.pending = sink.accepted := by
        rw [Sink.pending, good, ← upToDate]
        simp
      refine ⟨sink.accepted.take (max sink.file.length reached), [], ?_,
        (List.take_prefix _ _).trans within.accepted, List.nil_infix, fun _ => rfl⟩
      rw [List.append_nil, all]
    | true =>
      have held : sink.pending = sink.held := by
        rw [Sink.pending, good]
        rfl
      refine ⟨sink.file, sink.held.take (max sink.file.length reached - sink.file.length), ?_,
        within.file, (List.take_prefix _ _).isInfix.trans within.held, ?_⟩
      · change (sink.file ++ sink.pending).take _ = _
        rw [List.take_append, List.take_of_length_le (Nat.le_max_left _ _), held]
      · intro lasting
        obtain ⟨index, early, failure⟩ := within.failed good opened
        exact absurd (lasting index failure sink.used early) event
  · rw [same]
    exact within.remains

end

/-! Streams on one file. Each writes at its own position, so one can overwrite what the
other has brought. -/

/-- Bytes that come to a file at one time, and where they begin. -/
structure Piece (β : Type*) where
  position : Nat
  bytes : List β

def Piece.put (contents : List β) (piece : Piece β) : List β :=
  contents.take piece.position ++ piece.bytes ++
    contents.drop (piece.position + piece.bytes.length)

/-- What a stream has brought to its file between two states. -/
def Piece.between (before after : Sink β) : Piece β :=
  ⟨before.file.length, after.file.drop before.file.length⟩

/-- On a file of its own a stream writes at the end. -/
theorem Piece.put_between {before after : Sink β} (grows : before.file <+: after.file) :
    Piece.put before.file (Piece.between before after) = after.file := by
  obtain ⟨more, grown⟩ := grows
  rw [Piece.put, Piece.between, ← grown]
  simp

end MinecraftCarve.Library.StickySink
