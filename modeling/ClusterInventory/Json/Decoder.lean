import ClusterInventory.Json.Basic
import ClusterInventory.StringMap
import ClusterInventory.Time.Reader

/-! Reading values of a given type out of documents. A record is read field by field, from the
members of an object or, where its format allows that, from the items of a list in the order of
the fields. -/

namespace ClusterInventory

abbrev Decoder (α : Type) := Json → Option α

namespace Decoder

variable {α β : Type}

def string : Decoder String
  | .str s => some s
  | _ => none

def bool : Decoder Bool
  | .bool b => some b
  | _ => none

def intWithin (least most : Int) : Decoder Int
  | .int n => if least ≤ n && n ≤ most then some n else none
  | _ => none

/-- A whole number of 64 bits with sign. -/
def int64 : Decoder Int64 := fun j =>
  (intWithin (-9223372036854775808) 9223372036854775807 j).map Int64.ofInt

/-- A whole number of 64 bits without sign. -/
def uint64 : Decoder UInt64 := fun j =>
  (intWithin 0 18446744073709551615 j).map (UInt64.ofNat ·.toNat)

/-- A whole number of 32 bits without sign. -/
def uint32 : Decoder UInt32 := fun j => (intWithin 0 4294967295 j).map (UInt32.ofNat ·.toNat)

/-- A whole number of 16 bits without sign. -/
def uint16 : Decoder UInt16 := fun j => (intWithin 0 65535 j).map (UInt16.ofNat ·.toNat)

def instant : Decoder Instant
  | .str s => Instant.readRelaxed? s.toList
  | _ => none

/-- A value or nothing, where `null` is nothing. -/
def optional (d : Decoder α) : Decoder (Option α)
  | .null => some none
  | j => (d j).map some

def list (d : Decoder α) : Decoder (List α)
  | .arr items => items.mapM d
  | _ => none

/-- Values under arbitrary keys; of members with one key the last one stays. -/
def map (d : Decoder α) : Decoder (StringMap α)
  | .obj members =>
    (members.mapM fun (m : String × Json) => (d m.2).map fun v => (m.1, v)).map .ofList
  | _ => none

def object : Decoder (List (String × Json))
  | .obj members => some members
  | _ => none

end Decoder

/-- What is left of a record that is being read: the members of an object, in which each field is
looked up, or the items of a list, of which each field takes the next one. -/
inductive RecordSource where
  | members (ms : List (String × Json))
  | items (js : List Json)
  deriving Repr

abbrev Fields (α : Type) := StateT RecordSource Option α

namespace Fields

variable {α : Type}

/-- The value of a key that stands at most once; the outer level is empty when it stands more
often. -/
def unique? (key : String) (ms : List (String × Json)) : Option (Option Json) :=
  match ms.filter fun m => m.1 == key with
  | [] => some none
  | [m] => some (some m.2)
  | _ => none

/-- The document of the next field, if there is one. -/
def next (key : String) : Fields (Option Json) := do
  match ← get with
  | .members ms => StateT.lift (unique? key ms)
  | .items [] => return none
  | .items (j :: js) => do
    set (RecordSource.items js)
    return some j

def required (key : String) (d : Decoder α) : Fields α := do
  match ← next key with
  | some j => StateT.lift (d j)
  | none => failure

/-- A field that may be missing. -/
def withDefault (key : String) (missing : α) (d : Decoder α) : Fields α := do
  match ← next key with
  | some j => StateT.lift (d j)
  | none => return missing

/-- A field that may be missing or `null`. -/
def optional (key : String) (d : Decoder α) : Fields (Option α) :=
  withDefault key none (Decoder.optional d)

/-- A list that may be missing. -/
def list (key : String) (d : Decoder α) : Fields (List α) := withDefault key [] (Decoder.list d)

/-- A map that may be missing. -/
def map (key : String) (d : Decoder α) : Fields (StringMap α) :=
  withDefault key .empty (Decoder.map d)

end Fields

namespace Decoder

variable {α : Type}

def objectRecord (fields : Fields α) : Decoder α
  | .obj members => (fields.run (.members members)).map (·.1)
  | _ => none

/-- A record whose fields are read from an object or, in order, from a list that has no items
beyond them. -/
def record (fields : Fields α) : Decoder α
  | .obj members => (fields.run (.members members)).map (·.1)
  | .arr items =>
    match fields.run (.items items) with
    | some (a, .items []) => some a
    | _ => none
  | _ => none

end Decoder

end ClusterInventory
