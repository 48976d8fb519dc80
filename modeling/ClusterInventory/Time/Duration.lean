import ClusterInventory.Text.Decimal

/-! Lengths of time in whole nanoseconds, and their text in messages. -/

namespace ClusterInventory

structure Duration where
  nanoseconds : Nat
  deriving DecidableEq, Repr, Inhabited

namespace Duration

def ofSeconds (n : Nat) : Duration := ⟨n * 1000000000⟩

def ofMillis (n : Nat) : Duration := ⟨n * 1000000⟩

def seconds (d : Duration) : Nat := d.nanoseconds / 1000000000

def subsecNanos (d : Duration) : Nat := d.nanoseconds % 1000000000

def isZero (d : Duration) : Bool := d.nanoseconds == 0

/-- `n` units of `unit` nanoseconds each, in decimal without zeros at the end of the fraction;
`places` is the number of decimal digits that a unit has. -/
private def inUnits (n unit places : Nat) : List Char :=
  let fraction := (Text.padded places (n % unit)).reverse.dropWhile (· == '0') |>.reverse
  Text.decimal (n / unit) ++ if n % unit = 0 then [] else '.' :: fraction

/-- The text of a length of time, in the largest unit up to seconds that it fills. -/
def text (d : Duration) : String :=
  let n := d.nanoseconds
  String.ofList <|
    if n ≥ 1000000000 then inUnits n 1000000000 9 ++ ['s']
    else if n ≥ 1000000 then inUnits n 1000000 6 ++ ['m', 's']
    else if n ≥ 1000 then inUnits n 1000 3 ++ ['µ', 's']
    else Text.decimal n ++ ['n', 's']

end Duration

end ClusterInventory
