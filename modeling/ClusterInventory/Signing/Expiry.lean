import ClusterInventory.Time.Instant

/-! Times in certificates: digits for year, month, day, hour and minute, perhaps for the second,
and a zone. The year has two digits or four. -/

namespace ClusterInventory.Signing

/-- The two forms of a time, which differ in the digits of the year. -/
inductive TimeForm where
  | short | long
  deriving DecidableEq, Repr

namespace TimeForm

/-- Two digits within bounds, and what follows. -/
def pair? (least most : Nat) : List Char → Option (Nat × List Char)
  | a :: b :: rest =>
    if a.isDigit && b.isDigit then
      let n := (a.toNat - 48) * 10 + (b.toNat - 48)
      if least ≤ n && n ≤ most then some (n, rest) else none
    else none
  | _ => none

/-- The year. One of two digits lies between 1950 and 2049. -/
def year? : TimeForm → List Char → Option (Nat × List Char)
  | short, cs => do
    let (n, rest) ← pair? 0 99 cs
    return (if n < 50 then 2000 + n else 1900 + n, rest)
  | long, cs => do
    let (century, rest) ← pair? 0 99 cs
    let (n, rest) ← pair? 0 99 rest
    return (century * 100 + n, rest)

/-- The second, which may be missing before a zone. -/
def second? (cs : List Char) : Option (Nat × List Char) :=
  match cs with
  | 'Z' :: _ | '+' :: _ | '-' :: _ => some (0, cs)
  | _ => pair? 0 59 cs

/-- What follows a fraction of a second, which only the long form may have. -/
def afterFraction? : TimeForm → List Char → Option (List Char)
  | long, '.' :: rest =>
    if (rest.takeWhile Char.isDigit).isEmpty then none else some (rest.dropWhile Char.isDigit)
  | _, cs => some cs

/-- The minutes by which a zone is ahead of universal time. -/
def zone? : List Char → Option Int
  | ['Z'] => some 0
  | sign :: rest => do
    let (hours, rest) ← pair? 0 12 rest
    let (minutes, rest) ← pair? 0 59 rest
    guard rest.isEmpty
    let offset := Int.ofNat (hours * 60 + minutes)
    if sign = '+' then return offset else if sign = '-' then return -offset else none
  | [] => none

/-- The moment that a text stands for; a fraction of a second counts for nothing. One that is
moved by a zone has to stay between the years 1900 and 9999. -/
def read? (form : TimeForm) (cs : List Char) : Option Instant := do
  let (year, cs) ← form.year? cs
  let (month, cs) ← pair? 1 12 cs
  let (day, cs) ← pair? 1 31 cs
  let (hour, cs) ← pair? 0 23 cs
  let (minute, cs) ← pair? 0 59 cs
  let (second, cs) ← second? cs
  let offset ← zone? (← form.afterFraction? cs)
  let t ← Instant.ofLocal? (← Date.make? year month day)
    (← TimeOfDay.make? hour minute second 0) offset
  guard (offset = 0 ∨ 1900 ≤ t.date.year ∧ t.date.year ≤ 9999)
  return t

end TimeForm

end ClusterInventory.Signing
