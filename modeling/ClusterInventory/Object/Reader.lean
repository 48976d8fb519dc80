import ClusterInventory.Object.Schema

/-! Reading the objects that a cluster holds. A document is first checked against its type as a
whole; the parts that are kept are then taken out of it. A field that is missing or null is as good
as one with nothing in it, and of a field that stands more than once the last value counts. -/

namespace ClusterInventory.Object

/-- Reads a value out of a document of which kept parts may nest so deep. -/
abbrev Reader (α : Type) := (room : Nat) → Json → Except Mismatch α

namespace Reader

variable {α : Type}

/-- Reads a document that stands by itself. -/
def whole (r : Reader α) (j : Json) : Except Mismatch α := r Json.maxDepth j

/-- Reads a document that stands by itself, whatever may be wrong with one that cannot be read. -/
def decoder (r : Reader α) : Decoder α := fun j => (r.whole j).toOption

end Reader

/-- The reader of what is kept of the documents of a type. -/
def Schema.reader {α : Type} (s : Schema) (view : Json → α) : Reader α := fun room j => do
  s.check room j
  return view j

/-! ## The parts of a document -/

/-- The value of a field, unless it is missing or null. -/
def field? (j : Json) (key : String) : Option Json :=
  match j.get? key with
  | some .null => none
  | v => v

def text? (j : Json) (key : String) : Option String := (field? j key).bind Decoder.string

/-- A text that is empty when there is none. -/
def text (j : Json) (key : String) : String := (text? j key).getD ""

def bool? (j : Json) (key : String) : Option Bool := (field? j key).bind Decoder.bool

def int? (j : Json) (key : String) : Option Int :=
  (field? j key).bind fun
    | .int n => some n
    | _ => none

def instant? (j : Json) (key : String) : Option Instant := (field? j key).bind Decoder.instant

def texts? (j : Json) (key : String) : Option (List String) :=
  (field? j key).bind (Decoder.list Decoder.string)

def textMap? (j : Json) (key : String) : Option (StringMap String) :=
  (field? j key).bind (Decoder.map Decoder.string)

def part? {α : Type} (j : Json) (key : String) (view : Json → α) : Option α :=
  (field? j key).map view

def parts? {α : Type} (j : Json) (key : String) (view : Json → α) : Option (List α) :=
  (field? j key).bind (Decoder.list fun item => some (view item))

def count? (j : Json) (key : String) : Option Nat := (parts? j key fun _ => ()).map List.length

end ClusterInventory.Object
