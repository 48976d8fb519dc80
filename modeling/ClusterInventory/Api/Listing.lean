import ClusterInventory.Api.Server
import ClusterInventory.Object.Meta

/-! Listings of objects. A server may give a listing page by page: every page but the last carries
a token, with which the next one is asked for. -/

namespace ClusterInventory.Api

structure Page (α : Type) where
  items : List α
  /-- The token for the next page; no page follows without one, or with an empty one. -/
  token : Option String

namespace Page

variable {α : Type}

/-- Reads the items of a page, which may be null when there are none. -/
def readItems (item : Object.Reader α) (room : Nat) : Json → Except Object.Mismatch (List α)
  | .null => return []
  | .arr items => items.mapM (item (room - 1))
  | j => throw (.wrongType (Object.describe j) "a sequence")

/-- Reads a page, whose metadata and items stand exactly once. -/
def reader (item : Object.Reader α) : Object.Reader (Page α) := fun room j =>
  match j with
  | .obj ms => do
    let metadata ← only ms "metadata"
    let items ← only ms "items"
    Object.Schema.kept.check room (.obj (ms.filter fun m => m.1 != "metadata" && m.1 != "items"))
    Object.Schema.listMeta.check (room - 1) metadata
    return { items := ← readItems item (room - 1) items, token := Object.text? metadata "continue" }
  | j => throw (.wrongType (Object.describe j) "struct ObjectList")
where
  /-- The value of a key that stands exactly once. -/
  only (ms : List (String × Json)) (key : String) : Except Object.Mismatch Json :=
    match Fields.unique? key ms with
    | some (some v) => return v
    | some none => throw (.missing key)
    | none => throw (.repeated key)

def next? (p : Page α) : Option String := p.token.filter (· != "")

end Page

/-- A listing of objects: where it stands, which of the objects there it is of, how many a page may
hold, and how one is read. -/
structure Listing (α : Type) where
  target : String
  selector : Option String := none
  limit : Option Nat := none
  item : Object.Reader α

namespace Listing

variable {σ α : Type}

def query (l : Listing α) (token : Option String) : List (String × String) :=
  (l.selector.map fun s => ("labelSelector", s)).toList ++
    (l.limit.map fun n => ("limit", String.ofList (Text.decimal n))).toList ++
    (token.map fun t => ("continue", t)).toList

/-- The request for one page. -/
def request (l : Listing α) (token : Option String) : Except Http.TargetFault Request :=
  Request.ofQuery (l.target ++ "?") (l.query token)

def page (l : Listing α) (c : Connection σ) (token : Option String) (world : σ) :
    Except CallError (Page α) × σ :=
  match l.request token with
  | .ok r => c.call r (Page.reader l.item).decoder world
  | .error fault => (.error (.unbuilt fault), world)

/-- The objects on the page of a token and on those after it. There is no outcome when so many
pages are not enough. -/
def after (l : Listing α) (c : Connection σ) :
    Nat → Option String → σ → Option (Except CallError (List α) × σ)
  | 0, _, _ => none
  | pages + 1, token, world =>
    match l.page c token world with
    | (.error e, world) => some (.error e, world)
    | (.ok p, world) =>
      match p.next? with
      | none => some (.ok p.items, world)
      | some t => (l.after c pages (some t) world).map fun (rest, world) =>
        (rest.map (p.items ++ ·), world)

/-- Every object of the listing, or the error of the first page that failed. There is no outcome
when so many pages are not enough. -/
def all (l : Listing α) (c : Connection σ) (pages : Nat) (world : σ) :
    Option (Except CallError (List α) × σ) :=
  l.after c pages none world

/-- Every object of the listing, none if it is not there. -/
def allOrEmpty (l : Listing α) (c : Connection σ) (pages : Nat) (world : σ) :
    Option (Except CallError (List α) × σ) :=
  (l.all c pages world).map fun (items, world) => (absentAsEmpty items, world)

end Listing

end ClusterInventory.Api
