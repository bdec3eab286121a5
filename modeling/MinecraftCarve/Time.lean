import MinecraftCarve.SectorWords

/-! `parse_time` and `current_time` of `mcarve.cpp`. The C library's `strptime` is
written out for the one format the program uses; `mktime`, `localtime` and the
time of day depend on the machine and are parameters. -/

namespace MinecraftCarve.Time
open SectorWords

/-- `struct tm`, without the fields that `mktime` ignores. -/
structure Tm where
  sec : Int := 0
  min : Int := 0
  hour : Int := 0
  mday : Int := 0
  mon : Int := 0
  year : Int := 0
  isdst : Int := 0
  deriving DecidableEq, Repr

structure Clock where
  mktime : Tm → Int
  localtime : Int → Tm
  time : Int

/-- `isspace` in the C locale. -/
def isSpace (c : Char) : Bool := c == ' ' || (9 ≤ c.toNat && c.toNat ≤ 13)

def digit (c : Char) : Nat := c.toNat - '0'.toNat

/-- Up to `count` further digits, as long as another digit cannot pass `limit`. -/
def moreDigits (limit : Nat) : Nat → Nat → List Char → Nat × List Char
  | count + 1, value, c :: rest =>
      if c.isDigit ∧ value * 10 ≤ limit then moreDigits limit count (value * 10 + digit c) rest
      else (value, c :: rest)
  | _, value, rest => (value, rest)

/-- One numeric conversion: leading blanks, then at least one digit. -/
def getNumber (low high count : Nat) (text : List Char) : Option (Nat × List Char) :=
  match text.dropWhile isSpace with
  | [] => none
  | c :: rest =>
    if c.isDigit then
      let (value, rest) := moreDigits high count 0 (c :: rest)
      if value < low ∨ high < value then none else some (value, rest)
    else none

def matchChar (expected : Char) : List Char → Option (List Char)
  | c :: rest => if c = expected then some rest else none
  | [] => none

/-- `strptime(s, "%Y-%m-%d", &tm)`: the filled fields and the unread text. -/
def strptime (text : List Char) : Option (Tm × List Char) := do
  let (year, rest) ← getNumber 0 9999 4 text
  let rest ← matchChar '-' rest
  let (month, rest) ← getNumber 1 12 2 rest
  let rest ← matchChar '-' rest
  let (day, rest) ← getNumber 1 31 2 rest
  some ({ year := (year : Int) - 1900, mon := (month : Int) - 1, mday := day }, rest)

def parseTime (clock : Clock) (timestr : String) : Except String Int :=
  -- `c_str` ends at the first NUL
  match strptime (timestr.toList.takeWhile (fun c => c != Char.ofNat 0)) with
  | some (tm, []) => .ok (clock.mktime tm)
  | _ => .error ("Failed to parse timestamp: " ++ timestr)

def currentTime (clock : Clock) : Int := clock.mktime (clock.localtime clock.time)

/-- A `time_t` stored in a `uint32_t`. -/
def narrow (time : Int) : Word := BitVec.ofInt 32 time

theorem narrow_toNat (time : Int) : ((narrow time).toNat : Int) = time % 2 ^ 32 := by
  rw [narrow, BitVec.toNat_ofInt]
  omega

/-- The default of `--start` is a date that `parse_time` accepts. -/
theorem parseTime_default (clock : Clock) :
    parseTime clock "2008-01-01" = .ok (clock.mktime { year := 108, mon := 0, mday := 1 }) := rfl

/-! A clock at a fixed distance from UTC, by the proleptic Gregorian calendar. -/

/-- Days from 1970-01-01 to the first of a month, with March as the first month. -/
def daysFromCivil (year month : Int) : Int :=
  let y := if month ≤ 2 then year - 1 else year
  let era := y / 400
  let yearOfEra := y - era * 400
  let dayOfYear := (153 * (if month ≤ 2 then month + 9 else month - 3) + 2) / 5
  era * 146097 + (yearOfEra * 365 + yearOfEra / 4 - yearOfEra / 100 + dayOfYear) - 719468

def civilFromDays (days : Int) : Tm :=
  let z := days + 719468
  let era := z / 146097
  let dayOfEra := z - era * 146097
  let yearOfEra := (dayOfEra - dayOfEra / 1460 + dayOfEra / 36524 - dayOfEra / 146096) / 365
  let dayOfYear := dayOfEra - (365 * yearOfEra + yearOfEra / 4 - yearOfEra / 100)
  let shifted := (5 * dayOfYear + 2) / 153
  let month := if shifted < 10 then shifted + 3 else shifted - 9
  let year := yearOfEra + era * 400 + (if month ≤ 2 then 1 else 0)
  { mday := dayOfYear - (153 * shifted + 2) / 5 + 1, mon := month - 1, year := year - 1900 }

def fixedZone (zone now : Int) : Clock where
  mktime tm :=
    (daysFromCivil (tm.year + 1900) (tm.mon + 1) + tm.mday - 1) * 86400 +
      tm.hour * 3600 + tm.min * 60 + tm.sec - zone
  localtime t :=
    let seconds := (t + zone) % 86400
    { civilFromDays ((t + zone) / 86400) with
      hour := seconds / 3600, min := seconds / 60 % 60, sec := seconds % 60 }
  time := now

end MinecraftCarve.Time
