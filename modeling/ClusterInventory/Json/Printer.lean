import ClusterInventory.Json.Basic
import ClusterInventory.Number.Shortest

/-! The compact text of a document: no blanks, and only the escapes that the format asks for. -/

namespace ClusterInventory.Json

/-- The digit of a number below sixteen, lower case. -/
def hexDigit (n : Nat) : Char := if n < 10 then Char.ofNat (0x30 + n) else Char.ofNat (0x57 + n)

/-- One character as it stands in a text between quotes. -/
def escapeChar (c : Char) : List Char :=
  if c = '"' then ['\\', '"']
  else if c = '\\' then ['\\', '\\']
  else if c = '\n' then ['\\', 'n']
  else if c = '\r' then ['\\', 'r']
  else if c = '\t' then ['\\', 't']
  else if c.toNat = 8 then ['\\', 'b']
  else if c.toNat = 12 then ['\\', 'f']
  else if c.toNat < 0x20 then
    ['\\', 'u', '0', '0', hexDigit (c.toNat / 16), hexDigit (c.toNat % 16)]
  else [c]

/-- Writes the characters of a text and its closing quote in front of `rest`. -/
def writeChars (rest : List Char) : List Char → List Char
  | [] => '"' :: rest
  | c :: cs => escapeChar c ++ writeChars rest cs

/-- Writes a text between quotes in front of `rest`. -/
def writeString (s : String) (rest : List Char) : List Char :=
  '"' :: writeChars rest s.toList

mutual

/-- Writes a document in front of `rest`. -/
def write (j : Json) (rest : List Char) : List Char :=
  match j with
  | .null => 'n' :: 'u' :: 'l' :: 'l' :: rest
  | .bool true => 't' :: 'r' :: 'u' :: 'e' :: rest
  | .bool false => 'f' :: 'a' :: 'l' :: 's' :: 'e' :: rest
  | .int n => Text.decimalInt n ++ rest
  | .float x => x.text ++ rest
  | .str s => writeString s rest
  | .arr [] => '[' :: ']' :: rest
  | .arr (item :: items) => '[' :: item.write (writeItems items rest)
  | .obj [] => '\x7b' :: '\x7d' :: rest
  | .obj ((key, v) :: members) =>
    '\x7b' :: writeString key (':' :: v.write (writeMembers members rest))
  | .unreadable => 'n' :: 'u' :: 'l' :: 'l' :: rest

/-- Writes further items and the end of their list. -/
def writeItems (items : List Json) (rest : List Char) : List Char :=
  match items with
  | [] => ']' :: rest
  | item :: items => ',' :: item.write (writeItems items rest)

/-- Writes further members and the end of their object. -/
def writeMembers (members : List (String × Json)) (rest : List Char) : List Char :=
  match members with
  | [] => '\x7d' :: rest
  | (key, v) :: members =>
    ',' :: writeString key (':' :: v.write (writeMembers members rest))

end

def text (j : Json) : String := String.ofList (j.write [])

end ClusterInventory.Json
