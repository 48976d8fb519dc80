import ClusterInventory.Json.Basic
import ClusterInventory.Text.Decimal
import ClusterInventory.Text.Utf8

/-! Reading JSON texts. A number without fraction and exponent that fits in 64 bits is read as a
whole number; any other is read as a float, from as many digits as fit in 64 bits and one power of
ten. -/

namespace ClusterInventory.Json

open Text

/-- The text without the blanks in front that may stand between the parts of a document. -/
def skipBlanks : List Char → List Char
  | c :: cs =>
    if c = ' ' || c = '\n' || c = '\t' || c = '\r' then skipBlanks cs else c :: cs
  | [] => []

/-! ## Texts -/

/-- The value of a hexadecimal digit of either case. -/
def hexValue? (c : Char) : Option Nat :=
  if c.isDigit then some (c.toNat - 0x30)
  else if 'a' ≤ c && c ≤ 'f' then some (c.toNat - 0x57)
  else if 'A' ≤ c && c ≤ 'F' then some (c.toNat - 0x37)
  else none

def hex4? (a b c d : Char) : Option Nat := do
  return (← hexValue? a) * 4096 + (← hexValue? b) * 256 + (← hexValue? c) * 16 + (← hexValue? d)

/-- The character that an escape with one letter stands for. -/
def simpleEscape? (c : Char) : Option Char :=
  match c with
  | '"' => some '"'
  | '\\' => some '\\'
  | '/' => some '/'
  | 'b' => some '\x08'
  | 'f' => some '\x0c'
  | 'n' => some '\n'
  | 'r' => some '\r'
  | 't' => some '\t'
  | _ => none

/-- Reads a text up to its closing quote. The characters read so far are given last first, and
`whole` tells that no half of a surrogate pair was among them. The result has no text when one
was. -/
def readChars (acc : List Char) (whole : Bool) :
    List Char → Option (Option String × List Char)
  | '"' :: rest => some (if whole then some (String.ofList acc.reverse) else none, rest)
  | '\\' :: 'u' :: a :: b :: c :: d :: '\\' :: 'u' :: e :: f :: g :: h :: rest => do
    let hi ← hex4? a b c d
    if 0xD800 ≤ hi && hi ≤ 0xDBFF then
      let lo ← hex4? e f g h
      if 0xDC00 ≤ lo && lo ≤ 0xDFFF then
        readChars (Char.ofNat (0x10000 + (hi - 0xD800) * 0x400 + (lo - 0xDC00)) :: acc) whole rest
      else readChars acc false ('\\' :: 'u' :: e :: f :: g :: h :: rest)
    else if 0xDC00 ≤ hi && hi ≤ 0xDFFF then
      readChars acc false ('\\' :: 'u' :: e :: f :: g :: h :: rest)
    else readChars (Char.ofNat hi :: acc) whole ('\\' :: 'u' :: e :: f :: g :: h :: rest)
  | '\\' :: 'u' :: a :: b :: c :: d :: rest => do
    let n ← hex4? a b c d
    if 0xD800 ≤ n && n ≤ 0xDFFF then readChars acc false rest
    else readChars (Char.ofNat n :: acc) whole rest
  | '\\' :: c :: rest => do
    readChars ((← simpleEscape? c) :: acc) whole rest
  | c :: rest => if c.toNat < 0x20 || c = '\\' then none else readChars (c :: acc) whole rest
  | [] => none
termination_by cs => cs.length

/-! ## Numbers -/

/-- The leading ASCII digits, and what follows them. -/
def spanDigits (cs : List Char) : List Char × List Char :=
  (cs.takeWhile Char.isDigit, cs.dropWhile Char.isDigit)

/-- Adds digits to a number as long as it stays within 64 bits; also gives the count of the
digits left over. -/
def gather (n : Nat) : List Char → Nat × Nat
  | [] => (n, 0)
  | c :: cs =>
    let m := 10 * n + digitValue c
    if m < UInt64.size then gather m cs else (n, cs.length + 1)

/-- The float `digits * 10 ^ exponent` by one multiplication or division; none when it is too
large. Exponents below -308 are reached in steps. -/
def scale? : Nat → Float → Int → Option Float
  | 0, x, _ => some x
  | fuel + 1, x, exponent =>
    if exponent.natAbs ≤ 308 then
      let factor := (Binary64.ofDecimal 1 exponent.natAbs).toFloat
      if exponent ≥ 0 then
        let y := x * factor
        if y.isInf then none else some y
      else some (x / factor)
    else if x == 0 then some x
    else if exponent ≥ 0 then none
    else scale? fuel (x / (Binary64.ofDecimal 1 308).toFloat) (exponent + 308)

/-- An exponent that fits in 32 bits with sign; sums beyond stop at the ends. -/
def clampExponent (e : Int) : Int := max (-2147483648) (min 2147483647 e)

def floatOf (negative : Bool) (x : Option Float) : Json :=
  match x with
  | some x => .float (.ofFloat (if negative then -x else x))
  | none => .unreadable

def readExponent (negative : Bool) (significand : Nat) (exponent : Int) :
    List Char → Option (Json × List Char)
  | [] => some (floatOf negative (scale? 8 (Binary64.nearest significand 1).toFloat exponent), [])
  | c :: cs =>
    if c = 'e' || c = 'E' then
      let (below, cs) := match cs with
        | '+' :: cs => (false, cs)
        | '-' :: cs => (true, cs)
        | cs => (false, cs)
      let (ds, rest) := spanDigits cs
      if ds.isEmpty then none
      else
        let e := valueFrom 0 ds
        if 2147483647 < e then
          if significand != 0 && !below then some (.unreadable, rest)
          else some (floatOf negative (some 0), rest)
        else
          let total := clampExponent (if below then exponent - e else exponent + e)
          let x := (Binary64.nearest significand 1).toFloat
          some (floatOf negative (scale? 8 x total), rest)
    else
      some (floatOf negative (scale? 8 (Binary64.nearest significand 1).toFloat exponent), c :: cs)

/-- Reads a number without its sign. -/
def readNumber (negative : Bool) (cs : List Char) : Option (Json × List Char) :=
  let (ds, rest) := spanDigits cs
  if ds.isEmpty || (ds.head? == some '0' && ds.length != 1) then none
  else
    let (significand, left) := gather 0 ds
    match rest with
    | '.' :: rest =>
      let (fs, rest) := spanDigits rest
      if fs.isEmpty then none
      else
        let (significand, unused) := gather significand fs
        readExponent negative significand ((left : Int) - ((fs.length - unused : Nat) : Int)) rest
    | 'e' :: _ | 'E' :: _ => readExponent negative significand left rest
    | _ =>
      if left != 0 then readExponent negative significand left rest
      else if !negative then some (.int significand, rest)
      else if 0 < significand && significand ≤ 9223372036854775808 then
        some (.int (-(significand : Int)), rest)
      else some (floatOf true (some (Binary64.nearest significand 1).toFloat), rest)

/-! ## Documents -/

mutual

/-- Reads a document; `fuel` bounds the steps. -/
def readValue : Nat → List Char → Option (Json × List Char)
  | 0, _ => none
  | fuel + 1, cs =>
    match skipBlanks cs with
    | 'n' :: 'u' :: 'l' :: 'l' :: rest => some (.null, rest)
    | 't' :: 'r' :: 'u' :: 'e' :: rest => some (.bool true, rest)
    | 'f' :: 'a' :: 'l' :: 's' :: 'e' :: rest => some (.bool false, rest)
    | '"' :: rest =>
      match readChars [] true rest with
      | some (some s, rest) => some (.str s, rest)
      | some (none, rest) => some (.unreadable, rest)
      | none => none
    | '[' :: rest =>
      match skipBlanks rest with
      | ']' :: rest => some (.arr [], rest)
      | rest => readItems fuel [] rest
    | '\x7b' :: rest =>
      match skipBlanks rest with
      | '\x7d' :: rest => some (.obj [], rest)
      | rest => readMembers fuel true [] rest
    | '-' :: rest => readNumber true rest
    | rest => readNumber false rest

/-- Reads the items of a list; those read so far are given last first. -/
def readItems : Nat → List Json → List Char → Option (Json × List Char)
  | 0, _, _ => none
  | fuel + 1, acc, cs =>
    match readValue fuel cs with
    | none => none
    | some (item, rest) =>
      match skipBlanks rest with
      | ',' :: rest => readItems fuel (item :: acc) rest
      | ']' :: rest => some (.arr (item :: acc).reverse, rest)
      | _ => none

/-- Reads the members of an object; those read so far are given last first, and `whole` tells that
every key among them could be read. The object stands for nothing when one could not. -/
def readMembers : Nat → Bool → List (String × Json) → List Char → Option (Json × List Char)
  | 0, _, _, _ => none
  | fuel + 1, whole, acc, cs =>
    match skipBlanks cs with
    | '"' :: rest =>
      match readChars [] true rest with
      | none => none
      | some (key, rest) =>
        match skipBlanks rest with
        | ':' :: rest =>
          match readValue fuel rest with
          | none => none
          | some (v, rest) =>
            let whole := whole && key.isSome
            let acc := (key.getD "", v) :: acc
            match skipBlanks rest with
            | ',' :: rest => readMembers fuel whole acc rest
            | '\x7d' :: rest => some (if whole then .obj acc.reverse else .unreadable, rest)
            | _ => none
        | _ => none
    | _ => none

end

/-- The document that characters spell. -/
def parseChars? (cs : List Char) : Option Json :=
  match readValue (2 * cs.length + 2) cs with
  | some (j, rest) => if (skipBlanks rest).isEmpty then some j else none
  | none => none

def parse? (s : String) : Option Json := parseChars? s.toList

/-- Stands for bytes that are not UTF-8: a sign and half a surrogate pair, which keep a text from
being read and are an error outside of texts and within escapes. The sign is there so that the half
finds no other half before it. -/
def stray : List Char := ['-', '\\', 'u', 'd', 'c', '0', '0']

/-- The document that bytes spell. Texts in it that are passed over need not be UTF-8. -/
def parseBytes? (bytes : List UInt8) : Option Json := parseChars? (Utf8.decodeWith stray bytes)

/-- The document that a text spells, with sorted objects, if every part of it can be read. -/
def parseWhole? (s : String) : Option Json := do
  let j ← parse? s
  if j.isReadable && j.depth ≤ maxDepth then some j.sorted else none

end ClusterInventory.Json
