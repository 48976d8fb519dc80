import ClusterInventory.Bytes.Base64

/-! The text form of keys and certificates: blocks in base 64 between a line that begins and a line
that ends them, each with a label. Lines of a header and an empty line may stand in front of the
data. What stands between blocks counts for nothing. -/

namespace ClusterInventory.Signing

inductive PemFault where
  /-- Something in it is wrong, and is said to be. -/
  | malformed
  /-- It is refused without a word. -/
  | unexplained
  deriving DecidableEq, Repr

structure PemBlock where
  label : String
  header : List Char
  data : List UInt8
  deriving DecidableEq, Repr

namespace Pem

/-- The most characters of a line that are read at once. -/
def pieceSize : Nat := 254

/-- The pieces in which a text is read, given those before in reverse, and the next one so far, in
reverse too. A piece ends with a line or when it is full. -/
def piecesFrom (done : List (List Char)) (piece : List Char) : List Char → List (List Char)
  | [] => (if piece.isEmpty then done else piece.reverse :: done).reverse
  | c :: rest =>
    let piece := c :: piece
    if c = '\n' ∨ piece.length = pieceSize then piecesFrom (piece.reverse :: done) [] rest
    else piecesFrom done piece rest

/-- The pieces in which a file is read. Its bytes are taken for characters one by one. -/
def pieces (bytes : List UInt8) : List (List Char) :=
  piecesFrom [] [] (bytes.map fun b => Char.ofNat b.toNat)

/-- A piece without what cannot be seen at its end. -/
def trimmed (piece : List Char) : List Char :=
  (piece.reverse.dropWhile fun c => c ≤ ' ' || c.toNat ≥ 0x80).reverse

/-- A piece does not reach the end of its line. -/
def isCut (piece : List Char) : Bool := piece.length == pieceSize && piece.getLast? != some '\n'

/-- The characters up to the first zero, which ends a text wherever one is kept. -/
def beforeZero (cs : List Char) : List Char := cs.takeWhile (· != '\x00')

/-- What is left of a text after something that it has to begin with. -/
def after? (start cs : List Char) : Option (List Char) :=
  if start.isPrefixOf cs then some (cs.drop start.length) else none

/-- The label of a line that begins a block. -/
def beginLabel? (line : List Char) : Option (List Char) := do
  let rest ← after? "-----BEGIN ".toList line
  let label ← after? "-----".toList rest.reverse
  return beforeZero label.reverse

/-- A piece without the mark of the encoding that a file may begin with. -/
def withoutMark (piece : List Char) : List Char :=
  if piece.length > 3 then
    (after? [Char.ofNat 0xEF, Char.ofNat 0xBB, Char.ofNat 0xBF] piece).getD piece
  else piece

/-- Pieces without that mark. -/
def unmarked : List (List Char) → List (List Char)
  | [] => []
  | first :: rest => withoutMark first :: rest

theorem length_unmarked (ps : List (List Char)) : (unmarked ps).length = ps.length := by
  cases ps <;> rfl

/-- The label of the next block and the pieces within and after it. -/
def findBegin : List (List Char) → Option (List Char × List (List Char))
  | [] => none
  | piece :: rest =>
    match beginLabel? (trimmed piece) with
    | some label => some (label, rest)
    | none => findBegin rest

/-- The part of a block that lines are read for. -/
inductive Part where
  /-- No line has shown yet whether there is a header. -/
  | undecided
  | header
  | body
  deriving DecidableEq

structure Draft where
  part : Part := .undecided
  /-- The text of the header or, if there is none, of the data. -/
  first : List Char := []
  /-- The text after an empty line. -/
  second : List Char := []
  /-- A line has been too short for another one to follow. -/
  isShort : Bool := false
  /-- The last piece has not reached the end of its line. -/
  wasCut : Bool := false

def kept (line : List Char) : List Char := beforeZero (line ++ ['\n'])

/-- Reads pieces up to the end of a block with this label; gives what they make up and the pieces
after those that have been read. Lines of data have the same length where an empty line stands in
front of them. -/
def readPieces (label : List Char) (d : Draft) :
    List (List Char) → Except PemFault Draft × List (List Char)
  | [] => (.error .malformed, [])
  | piece :: rest =>
    let part := if d.part = .undecided && piece.contains ':' then .header else d.part
    let line := trimmed piece
    let next := { d with part, wasCut := isCut piece }
    if line.isEmpty then
      if d.wasCut then readPieces label next rest
      else if part = .body then (.error .malformed, rest)
      else readPieces label { next with part := .body } rest
    else
      match after? "-----END ".toList line with
      | some ending =>
        (if ending = label ++ "-----".toList then .ok next else .error .malformed, rest)
      | none =>
        if d.isShort then (.error .malformed, rest)
        else if part = .body then
          if line.length > 64 then (.error .unexplained, rest)
          else readPieces label
            { next with second := d.second ++ kept line, isShort := line.length < 64 } rest
        else readPieces label { next with first := d.first ++ kept line } rest

theorem length_readPieces_le (label : List Char) (d : Draft) (ps : List (List Char)) :
    (readPieces label d ps).2.length ≤ ps.length := by
  fun_induction readPieces label d ps with
  | case1 => simp
  | _ => simp_all <;> omega

theorem length_findBegin_lt {ps rest : List (List Char)} {label : List Char}
    (h : findBegin ps = some (label, rest)) : rest.length < ps.length := by
  induction ps with
  | nil => simp [findBegin] at h
  | cons piece ps ih =>
    simp only [findBegin] at h
    split at h
    · simp only [Option.some.injEq, Prod.mk.injEq] at h
      simp [h.2]
    · exact Nat.lt_succ_of_lt (ih h)

/-- The character is passed over in data. -/
def isGap (c : Char) : Bool := c == ' ' || c == '\t' || c == '\n' || c == '\r'

/-- The bytes of data. A hyphen ends it. -/
def decodeData? (cs : List Char) : Option (List UInt8) :=
  let cs := (cs.filter fun c => !isGap c).takeWhile (· != '-')
  let digits := cs.takeWhile (· != '=')
  let filling := cs.drop digits.length
  if filling.length ≤ 2 ∧ filling.all (· == '=') ∧ cs.length % 4 = 0 then
    Bytes.Base64.standard.decodeChars? digits
  else none

/-- The block that lines make up. One without data is of no use. -/
def Draft.block (label : List Char) (d : Draft) : Except PemFault PemBlock :=
  let (header, data) := if d.part = .undecided then ([], d.first) else (d.first, d.second)
  match decodeData? data with
  | none => .error .malformed
  | some [] => .error .unexplained
  | some data => .ok { label := String.ofList label, header, data }

/-- All blocks of some pieces, with what is wrong in place of those that are broken. -/
def blocksOf (ps : List (List Char)) : List (Except PemFault PemBlock) :=
  match _h : findBegin (unmarked ps) with
  | none => []
  | some (label, within) =>
    let read := readPieces label {} within
    read.1.bind (Draft.block label) :: blocksOf read.2
termination_by ps.length
decreasing_by
  have begun := length_findBegin_lt _h
  have read := length_readPieces_le label {} within
  rw [length_unmarked] at begun
  omega

/-- All blocks of a file, with what is wrong in place of those that are broken. -/
def blocks (file : List UInt8) : List (Except PemFault PemBlock) := blocksOf (pieces file)

end Pem

namespace PemBlock

/-- Why the header keeps the data from being used. It can only say that the data is encrypted, and
nobody is there to give a password. -/
def headerFault? (b : PemBlock) : Option PemFault :=
  if b.header.isEmpty then none
  else
    match Pem.after? "Proc-Type:".toList b.header with
    | none => some .malformed
    | some rest =>
      let rest := rest.dropWhile fun c => c == ' ' || c == '\t'
      if "4,".toList.isPrefixOf rest then some .malformed else some .unexplained

end PemBlock

end ClusterInventory.Signing
