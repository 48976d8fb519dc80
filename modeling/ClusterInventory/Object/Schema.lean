import ClusterInventory.Bytes.Base64
import ClusterInventory.Json.Decoder
import ClusterInventory.Number.Shortest
import ClusterInventory.Text.Quoted

/-! The types of the objects that a cluster holds, and whether a document conforms to one. A record
may lack any of its fields, has null in place of any, and may have fields that its type does not
name; a field that stands more than once has to conform each time. The first part of a document
that does not conform is what is wrong with it. -/

namespace ClusterInventory.Object

/-- Why a document does not conform to a type. -/
inductive Mismatch where
  /-- A value of one type where another one is wanted. -/
  | wrongType (got want : String)
  /-- A value of the wanted type that it cannot hold. -/
  | wrongValue (got want : String)
  | badTime (cause : Instant.ReadError)
  /-- A text that is not bytes in base 64. -/
  | badBytes
  /-- A field that stands more than once. -/
  | repeated (key : String)
  /-- A field that is not there. -/
  | missing (key : String)
  /-- A part that is nested too deep, or that stands for nothing. -/
  | unreadable
  deriving DecidableEq, Repr

def Mismatch.message : Mismatch → String
  | .wrongType got want => s!"invalid type: {got}, expected {want}"
  | .wrongValue got want => s!"invalid value: {got}, expected {want}"
  | .badTime cause => cause.message
  | .badBytes => "invalid base64"
  | .repeated key => "duplicate field \x60" ++ key ++ "\x60"
  | .missing key => "missing field \x60" ++ key ++ "\x60"
  | .unreadable => "unreadable value"

def describe : Json → String
  | .null => "null"
  | .bool b => s!"boolean {backquoted (toString b)}"
  | .int n => s!"integer {backquoted (String.ofList (Text.decimalInt n))}"
  | .float x => s!"floating point {backquoted (String.ofList x.text)}"
  | .str s => s!"string {Text.quoted s}"
  | .arr _ => "sequence"
  | .obj _ => "map"
  | .unreadable => "null"
where
  /-- A text between grave accents. -/
  backquoted (s : String) : String := "\x60" ++ s ++ "\x60"

inductive Schema where
  | text
  | bool
  /-- A whole number with sign, of so many bits. -/
  | int (bits : Nat)
  | instant
  /-- Bytes as a text in base 64. -/
  | bytes
  /-- A whole number of 32 bits or a text. -/
  | intOrText
  /-- The text that names the type of an object. It is not null where it is a field. -/
  | name (want : String)
  /-- Any document that can be kept. -/
  | kept
  | list (item : Schema)
  /-- Values under arbitrary keys. -/
  | map (value : Schema)
  /-- A record of the named type. -/
  | record (type : String) (fields : List (String × Schema))
  deriving Repr, Inhabited

namespace Schema

/-- What is wanted where a value of the type is wanted. -/
def wanted : Schema → String
  | .text => "a string"
  | .bool => "a boolean"
  | .int bits => s!"i{bits}"
  | .instant => "an RFC 3339 formatted date and time string"
  | .bytes => "a string"
  | .intOrText => "enum IntOrString"
  | .name _ => "a string"
  | .kept => "any value"
  | .list _ => "a sequence"
  | .map _ => "a map"
  | .record type _ => type

/-- Null is as good as a missing field of the type. -/
def isNullable : Schema → Bool
  | .name _ => false
  | _ => true

def checkInt (n : Int) : Schema → Except Mismatch Unit
  | .int bits =>
    let bound : Int := Nat.pow 2 (bits - 1)
    if -bound ≤ n && n < bound then return ()
    else throw (.wrongValue (describe (.int n)) s!"i{bits}")
  | .intOrText =>
    if -2147483648 ≤ n && n ≤ 2147483647 then return ()
    else throw (.wrongValue (describe (.int n)) "a 32-bit integer")
  | .kept => return ()
  | s => throw (.wrongType (describe (.int n)) s.wanted)

def checkText (t : String) : Schema → Except Mismatch Unit
  | .text | .intOrText | .kept => return ()
  | .name want =>
    if t = want then return () else throw (.wrongValue (describe (.str t)) want)
  | .instant => do
    let _ ← (Instant.readRelaxed t.toList).mapError Mismatch.badTime
    return ()
  | .bytes =>
    if (Bytes.Base64.standard.decode? t).map Bytes.Base64.standard.encode = some t then return ()
    else throw .badBytes
  | s => throw (.wrongType (describe (.str t)) s.wanted)

/-- Whether a document that is neither a list nor an object conforms. -/
def checkPlain (j : Json) (s : Schema) : Except Mismatch Unit :=
  match j, s with
  | .int n, s => s.checkInt n
  | .str t, s => s.checkText t
  | .bool _, .bool => return ()
  | .null, .bytes => return ()
  | .unreadable, _ => throw .unreadable
  | _, .kept => return ()
  | j, s => throw (.wrongType (describe j) s.wanted)

/-- Whether a document can be kept where parts may nest so deep. -/
def checkKept (room : Nat) (j : Json) : Except Mismatch Unit :=
  if j.isReadable && j.depth ≤ room then return () else throw .unreadable

mutual

/-- Whether a document conforms. What is kept of it may nest so deep. -/
def check (s : Schema) (room : Nat) (j : Json) : Except Mismatch Unit :=
  match j with
  | .arr items =>
    match s with
    | .list item => item.checkItems (room - 1) items
    | .kept => checkKept room (.arr items)
    | s => throw (.wrongType (describe (.arr items)) s.wanted)
  | .obj members =>
    match s with
    | .map value => value.checkValues (room - 1) members
    | .record _ fields => checkFields fields (room - 1) members
    | .kept => checkKept room (.obj members)
    | s => throw (.wrongType (describe (.obj members)) s.wanted)
  | j => s.checkPlain j

def checkItems (item : Schema) (room : Nat) : List Json → Except Mismatch Unit
  | [] => return ()
  | j :: rest => do
    item.check room j
    item.checkItems room rest

def checkValues (value : Schema) (room : Nat) : List (String × Json) → Except Mismatch Unit
  | [] => return ()
  | (_, v) :: rest => do
    value.check room v
    value.checkValues room rest

/-- Whether the value of every known field conforms. -/
def checkFields (fields : List (String × Schema)) (room : Nat) :
    List (String × Json) → Except Mismatch Unit
  | [] => return ()
  | (key, v) :: rest => do
    match fields.lookup key, v with
    | none, _ => pure ()
    | some s, .null => if s.isNullable then pure () else s.check room .null
    | some s, v => s.check room v
    checkFields fields room rest

end

/-! ## Writing types down -/

def each (s : Schema) (keys : List String) : List (String × Schema) := keys.map fun key => (key, s)

def texts : List String → List (String × Schema) := each text

def bools : List String → List (String × Schema) := each bool

/-- Fields of whole numbers of 32 bits. -/
def int32s : List String → List (String × Schema) := each (int 32)

/-- Fields of whole numbers of 64 bits. -/
def int64s : List String → List (String × Schema) := each (int 64)

def textLists : List String → List (String × Schema) := each (list text)

def textMaps : List String → List (String × Schema) := each (map text)

def instants : List String → List (String × Schema) := each instant

end Schema

end ClusterInventory.Object
