import ClusterInventory.Text.Blank
import ClusterInventory.Time.Instant

/-! Reading moments. The strict form has fixed widths; the relaxed form also takes blanks between
its parts, short numbers, years with a sign, and more spellings of the offset. -/

namespace ClusterInventory.Instant

open Text

/-- Why a text is not a moment. -/
inductive ReadError where
  | invalid
  | outOfRange
  | tooShort
  | trailing
  /-- A moment of which the universal time lies outside the calendar. -/
  | impossible
  deriving DecidableEq, Repr

def ReadError.message : ReadError → String
  | .invalid => "input contains invalid characters"
  | .outOfRange => "input is out of range"
  | .tooShort => "premature end of input"
  | .trailing => "trailing input"
  | .impossible => "no possible date and time matching input"

/-- Takes a value of type `α` off the front of a text. -/
abbrev Scan (α : Type) := List Char → Except ReadError (α × List Char)

/-- Takes nothing but characters off the front of a text. -/
abbrev Skip := List Char → Except ReadError (List Char)

/-- The leading ASCII digits, at most `width` of them, and what follows. -/
def takeDigits : Nat → List Char → List Char × List Char
  | 0, cs => ([], cs)
  | _, [] => ([], [])
  | width + 1, c :: cs =>
    if c.isDigit then
      let (ds, rest) := takeDigits width cs
      (c :: ds, rest)
    else ([], c :: cs)

/-- A number of at least `least` and at most `most` digits. A text is too short for it when it has
fewer bytes than that. -/
def number (least most : Nat) : Scan Nat := fun cs =>
  if (String.ofList cs).utf8ByteSize < least then throw .tooShort
  else
    let (ds, rest) := takeDigits most cs
    if ds.length < least then throw .invalid else return (valueFrom 0 ds, rest)

/-- What follows the given character, if it stands first. -/
def mark (c : Char) : Skip
  | d :: rest => if d = c then return rest else throw .invalid
  | [] => throw .tooShort

def separator : Skip
  | 'T' :: rest => return rest
  | 't' :: rest => return rest
  | ' ' :: rest => return rest
  | [] => throw .tooShort
  | _ => throw .invalid

/-- Nanoseconds of an optional fraction; digits beyond the ninth are dropped. -/
def fraction : Scan Nat
  | '.' :: cs => do
    let (ds, rest) := takeDigits 9 cs
    if ds.isEmpty then throw (if cs.isEmpty then .tooShort else .invalid)
    else return (valueFrom 0 ds * Nat.pow 10 (9 - ds.length), rest.dropWhile Char.isDigit)
  | cs => return (0, cs)

/-- The number, if it lies within bounds. -/
def within (least most n : Nat) : Except ReadError Nat :=
  if least ≤ n && n ≤ most then return n else throw .outOfRange

/-- The minutes of an offset with sign, of any number of hours with two digits; `gap` passes over
what stands between hours and minutes. -/
def offset (gap : Skip) : Scan Int
  | 'Z' :: rest => return (0, rest)
  | 'z' :: rest => return (0, rest)
  | sign :: cs => do
    let positive ← if sign = '+' then pure true
      else if sign = '-' || sign = '\u2212' then pure false else throw .invalid
    let (hours, cs) ← number 2 2 cs
    let cs ← gap cs
    let (minutes, cs) ← number 2 2 cs
    let total : Int := hours * 60 + (← within 0 59 minutes)
    return (if positive then total else -total, cs)
  | [] => throw .tooShort

/-- The moment with these parts, or what is wrong with them: a day or an offset that there is not,
or a day on which universal time leaves the calendar. -/
def assemble (year : Int) (month day hour minute second nanos : Nat) (offset : Int) :
    Except ReadError Instant :=
  match Date.make? year month day, TimeOfDay.make? hour minute second nanos with
  | some date, some time =>
    if offset.natAbs < 1440 then
      match ofLocal? date time offset with
      | some t => return t
      | none => throw .impossible
    else throw .outOfRange
  | _, _ => throw .outOfRange

def readStrict (cs : List Char) : Except ReadError Instant := do
  let (year, cs) ← number 4 4 cs
  let cs ← mark '-' cs
  let (month, cs) ← number 2 2 cs
  let cs ← mark '-' cs
  let (day, cs) ← number 2 2 cs
  let cs ← separator cs
  let (hour, cs) ← number 2 2 cs
  let cs ← mark ':' cs
  let (minute, cs) ← number 2 2 cs
  let cs ← mark ':' cs
  let (second, cs) ← number 2 2 cs
  let (nanos, cs) ← fraction cs
  let (offset, cs) ← offset (mark ':') cs
  if cs.isEmpty then assemble year month day hour minute second nanos offset
  else throw .trailing

/-- A number of one or two digits after blanks, within bounds. -/
def looseNumber (least most : Nat) : Scan Nat := fun cs => do
  let (n, rest) ← number 1 2 (trimStart cs)
  return (← within least most n, rest)

/-- A year that fits in 32 bits. -/
def yearInRange (year : Int) : Except ReadError Int :=
  if -2147483648 ≤ year && year ≤ 2147483647 then return year else throw .outOfRange

/-- A year after blanks: up to four digits, or any number of them after a sign. -/
def looseYear : Scan Int := fun cs =>
  match trimStart cs with
  | '-' :: cs => do
    let (y, rest) ← number 1 (cs.length + 1) cs
    return (← yearInRange (-(y : Int)), rest)
  | '+' :: cs => do
    let (y, rest) ← number 1 (cs.length + 1) cs
    return (← yearInRange y, rest)
  | cs => do
    let (y, rest) ← number 1 4 cs
    return ((y : Int), rest)

/-- What follows the given character, which may have blanks in front. -/
def looseMark (c : Char) : Skip := fun cs => mark c (trimStart cs)

def looseGap : Skip := fun cs => return cs.dropWhile fun c => c == ':' || isBlank c

def looseOffset : Scan Int := fun cs =>
  match cs with
  | u :: t :: c :: rest =>
    if u.toUpper = 'U' && t.toUpper = 'T' && c.toUpper = 'C' then return (0, rest)
    else offset looseGap cs
  | _ => offset looseGap cs

def readRelaxed (cs : List Char) : Except ReadError Instant := do
  let (year, cs) ← looseYear cs
  let cs ← looseMark '-' cs
  let (month, cs) ← looseNumber 1 12 cs
  let cs ← looseMark '-' cs
  let (day, cs) ← looseNumber 1 31 cs
  let cs ← separator cs
  let (hour, cs) ← looseNumber 0 23 cs
  let cs ← looseMark ':' cs
  let (minute, cs) ← looseNumber 0 59 cs
  let cs ← looseMark ':' cs
  let (second, cs) ← looseNumber 0 60 cs
  let (nanos, cs) ← fraction cs
  let (offset, cs) ← looseOffset (trimStart cs)
  if (trimStart cs).isEmpty then assemble year month day hour minute second nanos offset
  else throw .trailing

/-- The moment that a text spells in the strict form. -/
def readStrict? (cs : List Char) : Option Instant := (readStrict cs).toOption

/-- The moment that a text spells in the relaxed form. -/
def readRelaxed? (cs : List Char) : Option Instant := (readRelaxed cs).toOption

end ClusterInventory.Instant
