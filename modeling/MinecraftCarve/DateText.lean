import MinecraftCarve.Time
import Mathlib.Data.List.TakeWhile

/-! The texts that `parse_time` accepts. A conversion takes digits greedily, but never
more than its count and never past its limit, so that a numeral within both is taken as
a whole and anything else is left for the next conversion to fail on. -/

namespace MinecraftCarve.DateText
open Time

/-- The number that digits stand for. -/
def numeral (digits : List Char) : Nat :=
  digits.foldl (fun value c => value * 10 + digit c) 0

/-- Blanks and then a numeral of at most `count` digits, within the bounds. -/
structure Number (low high count : Nat) (text : List Char) (value : Nat) : Prop where
  written : ∃ blanks digits, text = blanks ++ digits ∧ (∀ c ∈ blanks, isSpace c = true) ∧
    (∀ c ∈ digits, c.isDigit = true) ∧ digits ≠ [] ∧ digits.length ≤ count ∧
    numeral digits = value
  low : low ≤ value
  high : value ≤ high

/-- A date as `parse_time` reads it: numerals of up to four, two and two digits. -/
structure Dated (text : List Char) (year month day : Nat) : Prop where
  parts : ∃ first second third, text = first ++ '-' :: (second ++ '-' :: third) ∧
    Number 0 9999 4 first year ∧ Number 1 12 2 second month ∧ Number 1 31 2 third day

/-- No further digit could be taken. -/
def Stops (rest : List Char) : Prop := ∀ c ∈ rest.head?, c.isDigit = false

/-! Digits one after the other, from a value that is there already. -/

theorem foldl_le (digits : List Char) (value : Nat) :
    value ≤ digits.foldl (fun value c => value * 10 + digit c) value := by
  induction digits generalizing value with
  | nil => exact Nat.le_refl _
  | cons c rest ih =>
    have later := ih (value * 10 + digit c)
    rw [List.foldl_cons]
    omega

/-- Digits within the count that stay within the limit are all taken. -/
theorem moreDigits_numeral {limit count value : Nat} {digits rest : List Char}
    (isDigits : ∀ c ∈ digits, c.isDigit = true) (few : digits.length ≤ count)
    (within : digits.foldl (fun value c => value * 10 + digit c) value ≤ limit)
    (stops : Stops rest) : moreDigits limit count value (digits ++ rest) =
      (digits.foldl (fun value c => value * 10 + digit c) value, rest) := by
  induction digits generalizing count value with
  | nil =>
    rw [List.nil_append, List.foldl_nil]
    cases count with
    | zero => rfl
    | succ count =>
      cases rest with
      | nil => rfl
      | cons c rest =>
        have notDigit : c.isDigit = false := stops c rfl
        rw [moreDigits, if_neg]
        simp [notDigit]
  | cons c more ih =>
    cases count with
    | zero => exact absurd few (Nat.not_succ_le_zero _)
    | succ count =>
      obtain ⟨isDigit, others⟩ := List.forall_mem_cons.mp isDigits
      have grows := foldl_le more (value * 10 + digit c)
      rw [List.foldl_cons] at within
      rw [List.cons_append, moreDigits, if_pos ⟨isDigit, by omega⟩, List.foldl_cons]
      exact ih others (Nat.le_of_succ_le_succ few) within

/-- Whatever is taken are digits within the count. -/
theorem moreDigits_taken (limit count value : Nat) (text : List Char) :
    ∃ digits, text = digits ++ (moreDigits limit count value text).2 ∧
      (∀ c ∈ digits, c.isDigit = true) ∧ digits.length ≤ count ∧
      (moreDigits limit count value text).1 =
        digits.foldl (fun value c => value * 10 + digit c) value := by
  induction count generalizing value text with
  | zero => exact ⟨[], by simp [moreDigits], by simp, Nat.le_refl _, by simp [moreDigits]⟩
  | succ count ih =>
    cases text with
    | nil => exact ⟨[], by simp [moreDigits], by simp, Nat.zero_le _, by simp [moreDigits]⟩
    | cons c rest =>
      rw [moreDigits]
      split
      · next taken =>
        obtain ⟨digits, split, isDigits, few, value⟩ := ih (value * 10 + digit c) rest
        refine ⟨c :: digits, ?_, List.forall_mem_cons.mpr ⟨taken.1, isDigits⟩,
          Nat.succ_le_succ few, value⟩
        rw [List.cons_append, ← split]
      · exact ⟨[], rfl, by simp, Nat.zero_le _, rfl⟩

/-! One conversion. -/

theorem isSpace_not_digit {c : Char} (isDigit : c.isDigit = true) : isSpace c = false := by
  have bounds : 48 ≤ c.toNat ∧ c.toNat ≤ 57 := by
    simpa [Char.isDigit, UInt32.le_iff_toNat_le] using isDigit
  have notBlank : c ≠ ' ' := by
    rintro rfl
    exact absurd bounds.1 (by decide)
  simp [isSpace, notBlank]
  omega

theorem dropWhile_blanks {blanks digits rest : List Char} (spaces : ∀ c ∈ blanks, isSpace c = true)
    (isDigits : ∀ c ∈ digits, c.isDigit = true) (nonempty : digits ≠ []) :
    (blanks ++ digits ++ rest).dropWhile isSpace = digits ++ rest := by
  induction blanks with
  | nil =>
    cases digits with
    | nil => exact absurd rfl nonempty
    | cons c more =>
      have notSpace := isSpace_not_digit (isDigits c (List.mem_cons_self ..))
      simp [notSpace]
  | cons c more ih =>
    obtain ⟨space, others⟩ := List.forall_mem_cons.mp spaces
    simp only [List.cons_append, List.dropWhile_cons, space, if_true]
    exact ih others

theorem getNumber_number {low high count value : Nat} {text rest : List Char}
    (number : Number low high count text value) (stops : Stops rest) :
    getNumber low high count (text ++ rest) = some (value, rest) := by
  obtain ⟨⟨blanks, digits, rfl, spaces, isDigits, nonempty, few, rfl⟩, least, most⟩ := number
  have all := moreDigits_numeral isDigits few most stops
  cases digits with
  | nil => exact absurd rfl nonempty
  | cons c more =>
    have first := isDigits c (List.mem_cons_self ..)
    rw [List.cons_append] at all
    simp only [getNumber, dropWhile_blanks spaces isDigits nonempty, List.cons_append, first,
      if_true, all]
    rw [if_neg]
    · rfl
    · exact not_or.mpr ⟨Nat.not_lt_of_le least, Nat.not_lt_of_le most⟩

theorem getNumber_some {low high count value : Nat} {text rest : List Char} (positive : 0 < count)
    (taken : getNumber low high count text = some (value, rest)) :
    ∃ front, text = front ++ rest ∧ Number low high count front value := by
  have split : text.takeWhile isSpace ++ text.dropWhile isSpace = text :=
    List.takeWhile_append_dropWhile
  have spaces : ∀ c ∈ text.takeWhile isSpace, isSpace c = true := fun c => List.mem_takeWhile_imp
  unfold getNumber at taken
  cases behind : text.dropWhile isSpace with
  | nil =>
    rw [behind] at taken
    cases taken
  | cons c more =>
    rw [behind] at taken split
    cases isDigit : c.isDigit with
    | false => simp [isDigit] at taken
    | true =>
      obtain ⟨digits, rest_split, isDigits, few, numeral_eq⟩ := moreDigits_taken high count 0 (c :: more)
      simp only [isDigit, if_true] at taken
      split at taken
      · cases taken
      · next bounds =>
        obtain ⟨notBelow, notAbove⟩ := not_or.mp bounds
        obtain ⟨rfl, rfl⟩ := Prod.mk.inj (Option.some.inj taken)
        refine ⟨text.takeWhile isSpace ++ digits, ?_, ⟨_, digits, rfl, spaces, isDigits, ?_, few,
          numeral_eq.symm⟩, not_lt.mp notBelow, not_lt.mp notAbove⟩
        · rw [List.append_assoc, ← rest_split, split]
        · rintro rfl
          obtain ⟨fewer, rfl⟩ := Nat.exists_eq_succ_of_ne_zero positive.ne'
          rw [moreDigits, if_pos ⟨isDigit, Nat.zero_le _⟩] at rest_split
          obtain ⟨taken, shorter, _⟩ := moreDigits_taken high fewer (0 * 10 + digit c) more
          have lengths := congrArg List.length rest_split
          have bound := congrArg List.length shorter
          simp only [List.nil_append, List.length_cons, List.length_append] at lengths bound
          omega

theorem matchChar_some {expected : Char} {text rest : List Char} :
    matchChar expected text = some rest ↔ text = expected :: rest := by
  cases text with
  | nil => simp [matchChar]
  | cons c more =>
    by_cases same : c = expected
    · simp [matchChar, same]
    · simp [matchChar, same]

theorem stops_dash (rest : List Char) : Stops ('-' :: rest) := by
  intro c member
  obtain rfl : '-' = c := by simpa using member
  decide

theorem stops_nil : Stops [] := fun _ member => nomatch member

/-- The fields of a date. -/
def tmOf (year month day : Nat) : Tm :=
  { year := (year : Int) - 1900, mon := (month : Int) - 1, mday := day }

theorem strptime_dated {text : List Char} {year month day : Nat} (dated : Dated text year month day) :
    strptime text = some (tmOf year month day, []) := by
  obtain ⟨first, second, third, rfl, isYear, isMonth, isDay⟩ := dated
  have yearTaken := getNumber_number isYear (stops_dash (second ++ '-' :: third))
  have monthTaken := getNumber_number isMonth (stops_dash third)
  have dayTaken := getNumber_number isDay stops_nil
  rw [List.append_nil] at dayTaken
  simp [strptime, yearTaken, monthTaken, dayTaken, matchChar, tmOf]

theorem strptime_whole {text : List Char} {tm : Tm} (read : strptime text = some (tm, [])) :
    ∃ year month day, Dated text year month day ∧ tm = tmOf year month day := by
  simp only [strptime, Option.bind_eq_bind, Option.bind_eq_some_iff] at read
  obtain ⟨⟨year, afterYear⟩, yearTaken, afterDash, dash, ⟨month, afterMonth⟩, monthTaken, afterSecond,
    secondDash, ⟨day, rest⟩, dayTaken, filled⟩ := read
  obtain ⟨rfl, rfl⟩ := Prod.mk.inj (Option.some.inj filled)
  obtain ⟨first, rfl, isYear⟩ := getNumber_some (by decide) yearTaken
  obtain rfl := matchChar_some.mp dash
  obtain ⟨second, rfl, isMonth⟩ := getNumber_some (by decide) monthTaken
  obtain rfl := matchChar_some.mp secondDash
  obtain ⟨third, rfl, isDay⟩ := getNumber_some (by decide) dayTaken
  rw [List.append_nil]
  exact ⟨year, month, day, ⟨first, second, third, rfl, isYear, isMonth, isDay⟩, rfl⟩

/-- The part of a text that a C string shows. -/
def shown (timestr : String) : List Char := timestr.toList.takeWhile (fun c => c != Char.ofNat 0)

theorem dated_unique {text : List Char} {year month day otherYear otherMonth otherDay : Nat}
    (dated : Dated text year month day) (datedToo : Dated text otherYear otherMonth otherDay) :
    tmOf year month day = tmOf otherYear otherMonth otherDay := by
  have same := (strptime_dated dated).symm.trans (strptime_dated datedToo)
  exact (Prod.mk.inj (Option.some.inj same)).1

theorem parseTime_dated (clock : Clock) {timestr : String} {year month day : Nat}
    (dated : Dated (shown timestr) year month day) :
    parseTime clock timestr = .ok (clock.mktime (tmOf year month day)) := by
  have read := strptime_dated dated
  rw [shown] at read
  rw [parseTime, read]

theorem parseTime_undated (clock : Clock) {timestr : String}
    (undated : ∀ year month day, ¬Dated (shown timestr) year month day) :
    parseTime clock timestr = .error ("Failed to parse timestamp: " ++ timestr) := by
  unfold parseTime
  split
  · next tm read =>
    obtain ⟨year, month, day, dated, _⟩ := strptime_whole read
    exact absurd dated (undated year month day)
  · rfl

/-- Every text is a date, and then `parse_time` gives its time, or it is rejected with
its whole text in the message. -/
theorem parseTime_exact (clock : Clock) (timestr : String) :
    (∀ time, parseTime clock timestr = .ok time ↔ ∃ year month day,
      Dated (shown timestr) year month day ∧ time = clock.mktime (tmOf year month day)) ∧
    ∀ what, parseTime clock timestr = .error what ↔
      (∀ year month day, ¬Dated (shown timestr) year month day) ∧
        what = "Failed to parse timestamp: " ++ timestr := by
  by_cases date : ∃ year month day, Dated (shown timestr) year month day
  · obtain ⟨year, month, day, dated⟩ := date
    rw [parseTime_dated clock dated]
    constructor
    · intro time
      constructor
      · intro same
        cases same
        exact ⟨year, month, day, dated, rfl⟩
      · rintro ⟨otherYear, otherMonth, otherDay, datedToo, rfl⟩
        rw [dated_unique dated datedToo]
    · intro what
      refine iff_of_false (by simp) ?_
      rintro ⟨undated, _⟩
      exact undated year month day dated
  · have undated : ∀ year month day, ¬Dated (shown timestr) year month day :=
      fun year month day dated => date ⟨year, month, day, dated⟩
    rw [parseTime_undated clock undated]
    constructor
    · intro time
      refine iff_of_false (by simp) ?_
      rintro ⟨year, month, day, dated, _⟩
      exact undated year month day dated
    · intro what
      constructor
      · intro same
        cases same
        exact ⟨undated, rfl⟩
      · rintro ⟨_, rfl⟩
        rfl

end MinecraftCarve.DateText
