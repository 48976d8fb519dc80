/-! Cutting a text at the first place where a mark stands. -/

namespace ClusterInventory.Text

/-- The parts before and after the first place where `mark` stands, if it does. -/
def splitAtMark (mark : List Char) : List Char → Option (List Char × List Char)
  | [] => if mark.isEmpty then some ([], []) else none
  | c :: rest =>
    if mark.isPrefixOf (c :: rest) then some ([], (c :: rest).drop mark.length)
    else (splitAtMark mark rest).map fun (before, after) => (c :: before, after)

/-- The parts of a text around the first place where `mark` stands. -/
def splitOnce (s mark : String) : Option (String × String) :=
  (splitAtMark mark.toList s.toList).map fun (before, after) =>
    (String.ofList before, String.ofList after)

/-- The mark stands somewhere in the text. -/
def contains (s mark : String) : Bool := (splitAtMark mark.toList s.toList).isSome

/-- The text begins with the mark. -/
def startsWith (s mark : String) : Bool := mark.toList.isPrefixOf s.toList

/-- The text without any `c` at its start. -/
def dropLeading (c : Char) (s : String) : String := String.ofList (s.toList.dropWhile (· == c))

/-- The text without any `c` at its end. -/
def dropTrailing (c : Char) (s : String) : String :=
  String.ofList (s.toList.reverse.dropWhile (· == c)).reverse

end ClusterInventory.Text
