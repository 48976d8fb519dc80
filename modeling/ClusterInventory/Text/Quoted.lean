import ClusterInventory.Text.EscapedTable

/-! Quoted texts for messages: between double quotes, with quotes, backslashes, controls and
invisible characters escaped. -/

namespace ClusterInventory.Text

/-- The digits of a number in base 16, lower case, most significant first. -/
def hexDigits (n : Nat) : List Char := Nat.toDigits 16 n

def isEscaped (c : Char) : Bool :=
  c.toNat < 0x20 || c.toNat == 0x7F ||
    (0x7F < c.toNat && escapedRanges.any fun r => r.1 ≤ c.toNat && c.toNat ≤ r.2)

/-- One character as it stands between the quotes. -/
def quoteChar (c : Char) : List Char :=
  if c = '"' then ['\\', '"']
  else if c = '\\' then ['\\', '\\']
  else if c = '\n' then ['\\', 'n']
  else if c = '\r' then ['\\', 'r']
  else if c = '\t' then ['\\', 't']
  else if c.toNat = 0 then ['\\', '0']
  else if isEscaped c then ['\\', 'u', '\x7b'] ++ hexDigits c.toNat ++ ['\x7d']
  else [c]

def quoted (s : String) : String := String.ofList ('"' :: s.toList.flatMap quoteChar ++ ['"'])

end ClusterInventory.Text
