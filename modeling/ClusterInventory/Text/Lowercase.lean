import ClusterInventory.Text.CaseTables

/-! Lower-casing of any text. Each character goes to its lower case, with two rules of their own:
a capital dotted I gives two characters, and a capital sigma that ends a word gives the final
sigma. -/

namespace ClusterInventory.Text

private def inRanges (ranges : List (Nat × Nat)) (c : Char) : Bool :=
  ranges.any fun r => r.1 ≤ c.toNat && c.toNat ≤ r.2

/-- The character is passed over when the letters around a position are looked for. -/
def isCaseIgnorable (c : Char) : Bool := inRanges caseIgnorableRanges c

/-- The character is a letter with case, and not passed over. -/
def isCased (c : Char) : Bool := inRanges casedRanges c

/-- The lower case of one character by the table; a character without one is its own. -/
def lowerChar (c : Char) : Char :=
  match lowerRuns.find? fun r =>
      r.first ≤ c.toNat && c.toNat ≤ r.last && (c.toNat - r.first) % r.step == 0 with
  | some r => Char.ofNat (c.toNat + r.shift).toNat
  | none => c

/-- The first character that is not passed over is a cased letter. -/
def facesLetter (cs : List Char) : Bool :=
  match cs.dropWhile isCaseIgnorable with
  | c :: _ => isCased c
  | [] => false

/-- Lower-cases the rest of a text after `before`, which is given last character first. -/
def lowerAfter (before : List Char) : List Char → List Char
  | [] => []
  | c :: rest =>
    let low :=
      if c = 'Σ' then
        [if facesLetter before && !facesLetter rest then 'ς' else 'σ']
      else if c = 'İ' then ['i', '\u0307']
      else [lowerChar c]
    low ++ lowerAfter (c :: before) rest

def toLower (s : String) : String := String.ofList (lowerAfter [] s.toList)

end ClusterInventory.Text
