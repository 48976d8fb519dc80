import ClusterInventory.Text.Blank
import ClusterInventory.Time.Duration

/-! Lengths of time written as a row of numbers with units, such as `2h 30m` or `1.5 days`. All
arithmetic stays within 64 bits, and a fraction has to be exact. -/

namespace ClusterInventory.Interval

open Text

/-- A unit of time: its length, and the nanoseconds (short units) or seconds (long ones) in which
a fraction of it is counted. -/
inductive Unit where
  | nanosecond
  /-- `length` nanoseconds. -/
  | short (length : Nat)
  /-- `length` seconds, whose fractions are counted in nanoseconds. -/
  | medium (length : Nat)
  /-- `length` seconds, whose fractions are counted in seconds. -/
  | long (length : Nat)
  deriving DecidableEq, Repr

def unitNames : List (List String × Unit) := [
  (["nanos", "nsec", "ns"], .nanosecond),
  (["usec", "us", "µs"], .short 1000),
  (["millis", "msec", "ms"], .short 1000000),
  (["seconds", "second", "secs", "sec", "s"], .medium 1),
  (["minutes", "minute", "min", "mins", "m"], .medium 60),
  (["hours", "hour", "hr", "hrs", "h"], .long 3600),
  (["days", "day", "d"], .long 86400),
  (["weeks", "week", "wk", "wks", "w"], .long 604800),
  (["months", "month", "M"], .long 2630016),
  (["years", "year", "yr", "yrs", "y"], .long 31557600)]

def unit? (name : List Char) : Option Unit :=
  (unitNames.find? fun (names, _) => names.contains (String.ofList name)).map (·.2)

/-- A number that fits in 64 bits. -/
def checked (n : Nat) : Option Nat := if n < UInt64.size then some n else none

def isUnitChar (c : Char) : Bool := c.isAlpha || c == 'µ'

/-- A fraction `numerator / denominator`, where the denominator is a power of ten. -/
structure Fraction where
  numerator : Nat
  denominator : Nat
  deriving DecidableEq, Repr

/-- `total` lengthened by whole seconds and nanoseconds. -/
def lengthen (total : Duration) (seconds nanos : Nat) : Option Duration := do
  let nanos ← checked (total.subsecNanos + nanos)
  let seconds ← checked (seconds + nanos / 1000000000)
  let seconds ← checked (total.seconds + seconds)
  return ⟨seconds * 1000000000 + nanos % 1000000000⟩

/-- `total` lengthened by `n` units and a fraction of one. -/
def addSpan (total : Duration) (n : Nat) (fraction : Option Fraction) (unit : Unit) :
    Option Duration := do
  let total ← match unit with
    | .nanosecond => lengthen total 0 n
    | .short length => do lengthen total 0 (← checked (n * length))
    | .medium length | .long length => do lengthen total (← checked (n * length)) 0
  match fraction with
  | none => return total
  | some ⟨p, q⟩ =>
    let share (length : Nat) : Option Nat := do
      let n ← checked (p * length)
      if n % q = 0 then some (n / q) else none
    match unit with
    | .nanosecond => none
    | .short length => do lengthen total 0 (← share length)
    | .medium length => do lengthen total 0 (← share (length * 1000000000))
    | .long length => do lengthen total (← share length) 0

/-- What is read next: the start of a span, the digits of its number, of its fraction, or the
letters of its unit. -/
inductive Reading where
  | start
  | whole (n : Nat)
  | fraction (n : Nat) (f : Fraction)
  | unit (n : Nat) (f : Option Fraction) (name : List Char)
  deriving DecidableEq, Repr

/-- The total after the span whose unit has been read, its letters last first. -/
def closeSpan (total : Duration) (n : Nat) (f : Option Fraction) (name : List Char) :
    Option Duration := do
  addSpan total n f (← unit? name.reverse)

def step (total : Duration) (reading : Reading) (c : Char) : Option (Duration × Reading) :=
  match reading with
  | .start =>
    if c.isDigit then some (total, .whole (digitValue c))
    else if isBlank c then some (total, .start) else none
  | .whole n =>
    if c.isDigit then do return (total, .whole (← checked (10 * n + digitValue c)))
    else if isBlank c then some (total, .whole n)
    else if c = '.' then some (total, .fraction n ⟨0, 1⟩)
    else if isUnitChar c then some (total, .unit n none [c]) else none
  | .fraction n ⟨p, q⟩ =>
    if c.isDigit then do
      return (total, .fraction n ⟨← checked (10 * p + digitValue c), ← checked (10 * q)⟩)
    else if isBlank c then some (total, .fraction n ⟨p, q⟩)
    else if isUnitChar c && q != 1 then some (total, .unit n (some ⟨p, q⟩) [c]) else none
  | .unit n f name =>
    if isUnitChar c then some (total, .unit n f (c :: name))
    else if c.isDigit then do return (← closeSpan total n f name, .whole (digitValue c))
    else if isBlank c then do return (← closeSpan total n f name, .start)
    else none

def readFrom (total : Duration) (reading : Reading) : List Char → Option Duration
  | [] =>
    match reading with
    | .start => some total
    | .unit n f name => closeSpan total n f name
    | _ => none
  | c :: cs => do
    let (total, reading) ← step total reading c
    readFrom total reading cs

/-- The length of time that a text spells; a lone zero needs no unit. -/
def read? (s : String) : Option Duration :=
  if s == "0" then some ⟨0⟩
  else if s.toList.all isBlank then none
  else readFrom ⟨0⟩ .start s.toList

/-- The pause between collections when none is given: one hour. -/
def fallback : Duration := .ofSeconds 3600

/-- The pause between collections: a text that spells no length of time, or none at all, stands
for the fallback. -/
def pause (s : String) : Duration :=
  match read? (String.ofList (trim s.toList)) with
  | some d => if d.isZero then fallback else d
  | none => fallback

end ClusterInventory.Interval
