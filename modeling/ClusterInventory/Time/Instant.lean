import ClusterInventory.Time.Calendar
import ClusterInventory.Time.Duration

/-! Moments of universal time with a resolution of a nanosecond. A leap second is the second
after the 59th of a minute, and is told by a count of nanoseconds of a whole second or more. -/

namespace ClusterInventory

structure TimeOfDay where
  hour : Fin 24
  minute : Fin 60
  second : Fin 60
  nanos : Fin 2000000000
  leap_mem : 1000000000 ≤ nanos.val → second.val = 59
  deriving DecidableEq

namespace TimeOfDay

def midnight : TimeOfDay := ⟨0, 0, 0, 0, by decide⟩

instance : Inhabited TimeOfDay := ⟨midnight⟩

/-- The time with these numbers; the 60th second of a minute is a leap second. -/
def make? (hour minute second nanos : Nat) : Option TimeOfDay :=
  if hh : hour < 24 then
    if hm : minute < 60 then
      if hn : nanos < 1000000000 then
        if hs : second < 60 then
          some ⟨⟨hour, hh⟩, ⟨minute, hm⟩, ⟨second, hs⟩, ⟨nanos, by omega⟩, by
            simp only; omega⟩
        else if second = 60 then
          some ⟨⟨hour, hh⟩, ⟨minute, hm⟩, 59, ⟨nanos + 1000000000, by omega⟩, fun _ => rfl⟩
        else none
      else none
    else none
  else none

/-- Seconds since midnight; a leap second counts with the one before. -/
def seconds (t : TimeOfDay) : Nat := t.hour.val * 3600 + t.minute.val * 60 + t.second.val

def isLeap (t : TimeOfDay) : Bool := 1000000000 ≤ t.nanos.val

end TimeOfDay

structure Instant where
  date : Date
  time : TimeOfDay
  deriving DecidableEq, Inhabited

namespace Instant

/-- The start of 1970. -/
def epoch : Instant := ⟨.epoch, .midnight⟩

/-- Seconds since the start of 1970, leap seconds not counted. -/
def seconds (t : Instant) : Int := t.date.number * 86400 + t.time.seconds

/-- Nanoseconds from `b` to `a`. A leap second that lies between the two counts when it is the
start, and is not yet over when it is the end. -/
def nanosSince (a b : Instant) : Int :=
  let whole := a.seconds - b.seconds
  let fraction : Int := a.time.nanos.val - b.time.nanos.val
  let adjust : Int :=
    if b.time.seconds < a.time.seconds then if b.time.isLeap then 1 else 0
    else if a.time.seconds < b.time.seconds then if a.time.isLeap then -1 else 0
    else 0
  (whole + adjust) * 1000000000 + fraction

/-- The moment so many nanoseconds after the start of 1970, if the calendar has it. -/
def ofUnixNanos? (n : Int) : Option Instant := do
  let s := n.fdiv 1000000000
  let nanos := n - s * 1000000000
  let day := s.fdiv 86400
  let rest := (s - day * 86400).toNat
  let date ← Date.ofNumber? day
  let time ← TimeOfDay.make? (rest / 3600) (rest / 60 % 60) (rest % 60) nanos.toNat
  return ⟨date, time⟩

/-- Nanoseconds since the start of 1970, where a leap second counts with the one after it. -/
def unixNanos (t : Instant) : Int := t.seconds * 1000000000 + t.time.nanos.val

/-- The moment so much earlier, if the calendar has it. -/
def earlier? (t : Instant) (d : Duration) : Option Instant :=
  ofUnixNanos? (t.unixNanos - d.nanoseconds)

/-- The universal time of a local time that is ahead of it by an offset in minutes. -/
def ofLocal? (date : Date) (time : TimeOfDay) (offset : Int) : Option Instant := do
  let minutes : Int := time.hour.val * 60 + time.minute.val - offset
  let date ← if minutes < 0 then date.prev? else if minutes < 1440 then some date else date.next?
  let m := (minutes.emod 1440).toNat
  return ⟨date, { time with hour := Fin.ofNat 24 (m / 60), minute := Fin.ofNat 60 m }⟩

/-- The year, with a sign when it does not fit in four digits. -/
def yearText (year : Int) : List Char :=
  if 0 ≤ year && year ≤ 9999 then Text.padded 4 year.toNat
  else (if year < 0 then '-' else '+') :: Text.padded 4 year.natAbs

/-- The fraction of a second with none, three, six or nine digits, the fewest that are exact. -/
def fractionText (nanos : Nat) : List Char :=
  if nanos = 0 then []
  else if nanos % 1000000 = 0 then '.' :: Text.padded 3 (nanos / 1000000)
  else if nanos % 1000 = 0 then '.' :: Text.padded 6 (nanos / 1000)
  else '.' :: Text.padded 9 nanos

/-- The written form, such as `2024-05-31T18:30:00.5Z`; a leap second shows as the 60th. -/
def chars (t : Instant) : List Char :=
  let second := if t.time.isLeap then t.time.second.val + 1 else t.time.second.val
  yearText t.date.year ++ '-' :: Text.padded 2 t.date.month ++ '-' :: Text.padded 2 t.date.day ++
    'T' :: Text.padded 2 t.time.hour.val ++ ':' :: Text.padded 2 t.time.minute.val ++
    ':' :: Text.padded 2 second ++ fractionText (t.time.nanos.val % 1000000000) ++ ['Z']

def text (t : Instant) : String := String.ofList t.chars

end Instant

end ClusterInventory
