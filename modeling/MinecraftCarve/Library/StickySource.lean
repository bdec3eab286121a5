import Mathlib.Tactic.Linarith

/-! An input stream with error flags that stay set. A seek clears the end-of-file
flag only; once another flag is set, seeks and reads do nothing. A read that comes
up short leaves the rest of the caller's buffer as it was. -/

namespace MinecraftCarve.Library.StickySource

/-- What the device offers to one operation: its contents at that moment, whether a
seek fails, and after how many items a read runs into a device error. Positions are
signed 64-bit numbers, so no file is longer than they reach. -/
structure Reading (β : Type*) where
  contents : List β
  addressable : contents.length < 2 ^ 63
  seekFails : Bool := false
  stopsAfter : Option Nat := none

structure Source (β : Type*) where
  eofbit : Bool
  failbit : Bool
  badbit : Bool
  position : Nat
  device : Nat → Reading β
  clock : Nat

variable {β : Type*}

def Source.opened (device : Nat → Reading β) : Source β := ⟨false, false, false, 0, device, 0⟩

/-- The device of a file that can be read and does not change. -/
def steady (contents : List β) (addressable : contents.length < 2 ^ 63) : Nat → Reading β :=
  fun _ => { contents := contents, addressable := addressable }

def Source.Good (source : Source β) : Prop :=
  source.eofbit = false ∧ source.failbit = false ∧ source.badbit = false

/-- `fail()`: the stream reports a failure, the end of the file alone is none. -/
def Source.fail (source : Source β) : Bool := source.failbit || source.badbit

def Source.now (source : Source β) : Reading β := source.device source.clock

def Source.seek (source : Source β) (offset : Int) : Source β :=
  if source.fail then
    { source with eofbit := false, failbit := true, clock := source.clock + 1 }
  else if source.now.seekFails ∨ offset < 0 then
    { source with eofbit := false, failbit := true, clock := source.clock + 1 }
  else { source with eofbit := false, position := offset.toNat, clock := source.clock + 1 }

def Source.seekEnd (source : Source β) : Source β := source.seek source.now.contents.length

/-- The position, or -1 on a stream that is not good. -/
def Source.tell (source : Source β) : Int :=
  if source.eofbit || source.fail then -1 else source.position

/-- The items a read of `count` can deliver at this moment. -/
def Source.available (source : Source β) (count : Nat) : List β :=
  (source.now.contents.drop source.position).take count

/-- A read that ends at `count` items or at the end of the contents. -/
def Source.deliver (source : Source β) (count : Nat) (moved : List β) : Source β :=
  { source with
    eofbit := decide (moved.length < count)
    failbit := decide (moved.length < count)
    position := source.position + moved.length
    clock := source.clock + 1 }

def Source.read (source : Source β) (count : Nat) : Source β × List β :=
  if source.eofbit || source.fail then
    ({ source with failbit := true, clock := source.clock + 1 }, [])
  else
    let available := source.available count
    match source.now.stopsAfter with
    | none => (source.deliver count available, available)
    | some stop =>
      if stop < available.length then
        ({ source with
            badbit := true, position := source.position + stop, clock := source.clock + 1 },
          available.take stop)
      else (source.deliver count available, available)

/-- A caller's buffer after some items were moved to its front. -/
def overlay (moved old : List β) : List β := moved.take old.length ++ old.drop moved.length

@[simp] theorem overlay_length (moved old : List β) : (overlay moved old).length = old.length := by
  simp only [overlay, List.length_append, List.length_take, List.length_drop]
  omega

/-- Nothing of the old buffer is left under a full transfer. -/
theorem overlay_full {moved old : List β} (full : moved.length = old.length) :
    overlay moved old = moved := by
  rw [overlay, ← full, List.take_length, full, List.drop_length, List.append_nil]

theorem overlay_nil (old : List β) : overlay [] old = old := by
  simp [overlay]

theorem Source.good_iff (source : Source β) :
    source.Good ↔ (source.eofbit || source.fail) = false := by
  simp [Source.Good, Source.fail]

theorem Source.Good.sound {source : Source β} (good : source.Good) : source.fail = false := by
  rw [Source.fail, good.2.1, good.2.2]
  rfl

theorem Source.opened_good (device : Nat → Reading β) : (Source.opened device).Good :=
  ⟨rfl, rfl, rfl⟩

theorem Source.Good.tell {source : Source β} (good : source.Good) :
    source.tell = source.position := by
  rw [Source.tell, (source.good_iff).mp good]
  rfl

/-- Everything that a seek can do. -/
theorem Source.seek_cases (source : Source β) (offset : Int) :
    ((source.fail = true ∨ source.now.seekFails = true ∨ offset < 0) ∧
        source.seek offset = { source with
          eofbit := false, failbit := true, clock := source.clock + 1 }) ∨
      (source.fail = false ∧ source.now.seekFails = false ∧ 0 ≤ offset ∧
        source.seek offset = { source with
          eofbit := false, position := offset.toNat, clock := source.clock + 1 }) := by
  unfold Source.seek
  by_cases failed : source.fail = true
  · exact Or.inl ⟨Or.inl failed, if_pos failed⟩
  · rw [if_neg failed]
    by_cases refused : source.now.seekFails = true ∨ offset < 0
    · exact Or.inl ⟨Or.inr refused, if_pos refused⟩
    · obtain ⟨granted, nonnegative⟩ := not_or.mp refused
      exact Or.inr ⟨Bool.eq_false_iff.mpr failed, Bool.eq_false_iff.mpr granted,
        not_lt.mp nonnegative, if_neg refused⟩

@[simp] theorem Source.seek_clock (source : Source β) (offset : Int) :
    (source.seek offset).clock = source.clock + 1 := by
  rcases source.seek_cases offset with ⟨_, same⟩ | ⟨_, _, _, same⟩
  all_goals rw [same]

@[simp] theorem Source.seek_device (source : Source β) (offset : Int) :
    (source.seek offset).device = source.device := by
  rcases source.seek_cases offset with ⟨_, same⟩ | ⟨_, _, _, same⟩
  all_goals rw [same]

@[simp] theorem Source.seek_now (source : Source β) (offset : Int) :
    (source.seek offset).now = source.device (source.clock + 1) := by
  rw [Source.now, Source.seek_device, Source.seek_clock]

/-- A seek that the device grants leaves a stream without failures good. -/
theorem Source.seek_good {source : Source β} {offset : Nat} (sound : source.fail = false)
    (granted : source.now.seekFails = false) :
    (source.seek offset).Good ∧ (source.seek offset).position = offset := by
  rcases source.seek_cases offset with ⟨failed | refused | negative, _⟩ | ⟨_, _, _, same⟩
  · cases sound.symm.trans failed
  · cases granted.symm.trans refused
  · omega
  · have flags : source.failbit = false ∧ source.badbit = false := by
      simpa [Source.fail] using sound
    rw [same]
    exact ⟨⟨rfl, flags⟩, rfl⟩

/-- A stream is only good after a seek that had nothing against it. -/
theorem Source.seek_good_inv {source : Source β} {offset : Int} (good : (source.seek offset).Good) :
    source.fail = false ∧ source.now.seekFails = false ∧
      (source.seek offset).position = offset.toNat := by
  rcases source.seek_cases offset with ⟨_, same⟩ | ⟨sound, granted, _, same⟩
  · rw [same] at good
    cases good.2.1
  · rw [same]
    exact ⟨sound, granted, rfl⟩

theorem Source.fail_seek (source : Source β) (offset : Nat) :
    (source.seek offset).fail = (source.fail || source.now.seekFails) := by
  rcases source.seek_cases offset with ⟨failed | refused | negative, same⟩ | ⟨sound, granted, _, same⟩
  · rw [same, failed]
    rfl
  · rw [same, refused, Bool.or_true]
    rfl
  · omega
  · rw [same, granted, Bool.or_false]
    rfl

/-- What a program learns of the size of a file by seeking to its end. -/
theorem Source.tell_seekEnd {source : Source β} (sound : source.fail = false) :
    source.seekEnd.tell =
      if source.now.seekFails then -1 else (source.now.contents.length : Int) := by
  cases refused : source.now.seekFails with
  | true =>
    have failed := source.fail_seek source.now.contents.length
    rw [refused, Bool.or_true] at failed
    rw [Source.seekEnd, Source.tell, failed, Bool.or_true]
    rfl
  | false =>
    obtain ⟨good, position⟩ := Source.seek_good sound refused
    rw [Source.seekEnd, good.tell, position]
    rfl

/-- The end of a file is a position that a signed 64-bit number holds. -/
theorem Source.tell_seekEnd_lt (source : Source β) : source.seekEnd.tell < 2 ^ 63 := by
  have addressable := source.now.addressable
  cases failed : source.fail with
  | true =>
    have still : source.seekEnd.fail = true := by
      rw [Source.seekEnd, Source.fail_seek, failed]
      rfl
    rw [Source.tell, still, Bool.or_true, if_pos rfl]
    decide
  | false =>
    rw [Source.tell_seekEnd failed]
    split <;> omega

/-- Everything that a read can do. -/
theorem Source.read_cases (source : Source β) (count : Nat) :
    (¬source.Good ∧ source.read count =
        ({ source with failbit := true, clock := source.clock + 1 }, [])) ∨
      (source.Good ∧ ∃ stop, source.now.stopsAfter = some stop ∧
        stop < (source.available count).length ∧ source.read count =
          ({ source with
              badbit := true, position := source.position + stop, clock := source.clock + 1 },
            (source.available count).take stop)) ∨
      (source.Good ∧
        (∀ stop, source.now.stopsAfter = some stop → (source.available count).length ≤ stop) ∧
        source.read count =
          (source.deliver count (source.available count), source.available count)) := by
  unfold Source.read
  by_cases failed : (source.eofbit || source.fail) = true
  · refine Or.inl ⟨?_, if_pos failed⟩
    rw [Source.good_iff, failed]
    decide
  · have good := source.good_iff.mpr (Bool.eq_false_iff.mpr failed)
    right
    rw [if_neg failed]
    cases stops : source.now.stopsAfter with
    | none =>
      refine Or.inr ⟨good, ?_, rfl⟩
      intro stop impossible
      cases impossible
    | some stop =>
      by_cases early : stop < (source.available count).length
      · exact Or.inl ⟨good, stop, rfl, early, if_pos early⟩
      · refine Or.inr ⟨good, ?_, if_neg early⟩
        intro limit same
        cases same
        exact not_lt.mp early

@[simp] theorem Source.read_device (source : Source β) (count : Nat) :
    (source.read count).1.device = source.device := by
  rcases source.read_cases count with ⟨_, same⟩ | ⟨_, _, _, _, same⟩ | ⟨_, _, same⟩
  · rw [same]
  · rw [same]
  · rw [same]
    rfl

@[simp] theorem Source.read_clock (source : Source β) (count : Nat) :
    (source.read count).1.clock = source.clock + 1 := by
  rcases source.read_cases count with ⟨_, same⟩ | ⟨_, _, _, _, same⟩ | ⟨_, _, same⟩
  · rw [same]
  · rw [same]
  · rw [same]
    rfl

theorem Source.available_length (source : Source β) (count : Nat) :
    (source.available count).length =
      min count (source.now.contents.length - source.position) := by
  rw [Source.available, List.length_take, List.length_drop]

/-- A read on a good stream that the device can serve in full. -/
theorem Source.read_full {source : Source β} {count : Nat} (good : source.Good)
    (served : ∀ stop, source.now.stopsAfter = some stop → count ≤ stop)
    (long : source.position + count ≤ source.now.contents.length) :
    (source.read count).1.Good ∧
      (source.read count).2 = (source.now.contents.drop source.position).take count := by
  have full : (source.available count).length = count := by
    rw [Source.available_length]
    omega
  rcases source.read_cases count with ⟨failed, _⟩ | ⟨_, stop, stops, early, _⟩ | ⟨_, _, same⟩
  · exact absurd good failed
  · have late := served stop stops
    omega
  · rw [same]
    refine ⟨?_, rfl⟩
    simp [Source.Good, Source.deliver, full, good.2.2]

/-- No read brings in more than the contents still hold. -/
theorem Source.read_length_le (source : Source β) (count : Nat) :
    (source.read count).2.length ≤ source.now.contents.length - source.position := by
  have available := source.available_length count
  rcases source.read_cases count with ⟨_, same⟩ | ⟨_, stop, _, _, same⟩ | ⟨_, _, same⟩
  · rw [same]
    exact Nat.zero_le _
  · rw [same, List.length_take]
    omega
  · rw [same]
    exact available.trans_le (Nat.min_le_right _ _)

/-- A read only brings in all it was asked for on a good stream over enough contents. -/
theorem Source.read_full_inv {source : Source β} {count : Nat} (positive : 0 < count)
    (full : count ≤ (source.read count).2.length) :
    source.Good ∧ (∀ stop, source.now.stopsAfter = some stop → count ≤ stop) ∧
      source.position + count ≤ source.now.contents.length := by
  have available := source.available_length count
  rcases source.read_cases count with ⟨_, same⟩ | ⟨_, stop, _, early, same⟩ | ⟨good, late, same⟩
  · rw [same, List.length_nil] at full
    omega
  · rw [same, List.length_take] at full
    omega
  · rw [same] at full
    change count ≤ (source.available count).length at full
    refine ⟨good, ?_, by omega⟩
    intro stop stops
    exact full.trans (late stop stops)

/-- A stream that has failed stays failed and reads nothing. -/
theorem Source.seek_failed {source : Source β} (failed : source.fail = true) (offset : Int) :
    (source.seek offset).fail = true := by
  rcases source.seek_cases offset with ⟨_, same⟩ | ⟨sound, _⟩
  · rw [same]
    rfl
  · cases sound.symm.trans failed

theorem Source.read_failed {source : Source β} (failed : source.fail = true) (count : Nat) :
    (source.read count).1.fail = true ∧ (source.read count).2 = [] := by
  have ended : (source.eofbit || source.fail) = true := by rw [failed, Bool.or_true]
  rw [Source.read, if_pos ended]
  exact ⟨rfl, rfl⟩

/-- A read that leaves the stream without failures was a full one. -/
theorem Source.read_sound {source : Source β} {count : Nat}
    (sound : (source.read count).1.fail = false) : count ≤ (source.read count).2.length := by
  rcases source.read_cases count with ⟨_, same⟩ | ⟨_, stop, _, _, same⟩ | ⟨_, _, same⟩
  · rw [same] at sound
    cases sound
  · rw [same] at sound
    cases (Bool.or_eq_false_iff.mp sound).2
  · rw [same] at sound ⊢
    exact not_lt.mp (of_decide_eq_false (Bool.or_eq_false_iff.mp sound).1)

/-- Whatever a read brings in stands in the contents behind the position. -/
theorem Source.read_prefix (source : Source β) (count : Nat) :
    (source.read count).2 <+: source.available count := by
  rcases source.read_cases count with ⟨_, same⟩ | ⟨_, stop, _, _, same⟩ | ⟨_, _, same⟩
  · rw [same]
    exact List.nil_prefix
  · rw [same]
    exact List.take_prefix _ _
  · simp only [same, List.prefix_refl]

/-- Where less than the buffer was moved, its end is what it was. -/
theorem full_of_overlay_eq {moved first second : List β} (size : first.length = second.length)
    (differ : ∀ index (inFirst : index < first.length) (inSecond : index < second.length),
      first[index] ≠ second[index])
    (same : overlay moved first = overlay moved second) : first.length ≤ moved.length := by
  by_contra short
  have rest : first.drop moved.length = second.drop moved.length := by
    rw [overlay, overlay, size] at same
    exact List.append_cancel_left same
  have next := congrArg (fun items => items[0]?) rest
  simp only [List.getElem?_drop, Nat.add_zero] at next
  rw [List.getElem?_eq_getElem (by omega), List.getElem?_eq_getElem (by omega)] at next
  exact differ moved.length (by omega) (by omega) (Option.some.inj next)

end MinecraftCarve.Library.StickySource
