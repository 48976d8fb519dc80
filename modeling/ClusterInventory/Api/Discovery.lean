import ClusterInventory.Api.Catalog
import ClusterInventory.Api.Server
import ClusterInventory.Api.VersionRank
import ClusterInventory.Object.Meta

/-! Discovery: asking an API for all that it serves. The groups are asked for first, then the kinds
of each version of each group, and last those of the unnamed group. -/

namespace ClusterInventory.Api

open Object (Reader Schema)

/-- A version of a group, and the text under which its kinds are asked for. -/
structure GroupVersion where
  version : String
  apiVersion : String

structure Group where
  name : String
  versions : List GroupVersion

/-- A kind as a server describes it. Its own group and version, if it has them, stand in place of
those of the list it is in. -/
structure Description where
  name : String
  kind : String
  namespaced : Bool
  group : Option String
  version : Option String

/-- The kinds that are served in one version of a group. -/
structure Descriptions where
  apiVersion : String
  entries : List Description

/-! ## What a server sends -/

def groupVersionSchema : Schema :=
  .record "GroupVersionForDiscovery" (Schema.texts ["groupVersion", "version"])

def serverAddressesSchema : Schema :=
  .list (.record "ServerAddressByClientCIDR" (Schema.texts ["clientCIDR", "serverAddress"]))

/-- A description of something served, which names its own type in that type's first version. -/
def descriptionSchema (kind : String) (fields : List (String × Schema)) : Schema :=
  .record kind ([("apiVersion", .name "v1"), ("kind", .name kind)] ++ fields)

def groupSchema : Schema :=
  descriptionSchema "APIGroup" (Schema.texts ["name"] ++ [
    ("preferredVersion", groupVersionSchema),
    ("serverAddressByClientCIDRs", serverAddressesSchema), ("versions", .list groupVersionSchema)])

def kindSchema : Schema :=
  .record "APIResource" (Schema.textLists ["categories", "shortNames", "verbs"] ++
    Schema.texts ["group", "kind", "name", "singularName", "storageVersionHash", "version"] ++
    Schema.bools ["namespaced"])

def GroupVersion.ofJson (j : Json) : GroupVersion :=
  { version := Object.text j "version", apiVersion := Object.text j "groupVersion" }

namespace Group

def ofJson (j : Json) : Group :=
  { name := Object.text j "name"
    versions := (Object.parts? j "versions" GroupVersion.ofJson).getD [] }

def listReader : Reader (List Group) :=
  (descriptionSchema "APIGroupList" [("groups", .list groupSchema)]).reader fun j =>
    (Object.parts? j "groups" ofJson).getD []

def unnamedReader : Reader Group :=
  (descriptionSchema "APIVersions" (Schema.textLists ["versions"] ++
    [("serverAddressByClientCIDRs", serverAddressesSchema)])).reader fun j =>
      { name := "", versions := ((Object.texts? j "versions").getD []).map fun v => ⟨v, v⟩ }

end Group

namespace Description

def ofJson (j : Json) : Description :=
  { name := Object.text j "name", kind := Object.text j "kind"
    namespaced := (Object.bool? j "namespaced").getD false, group := Object.text? j "group"
    version := Object.text? j "version" }

/-- The entry describes a part of a kind, not a kind of its own. -/
def isPart (d : Description) : Bool := Text.contains d.name "/"

end Description

namespace Descriptions

def reader : Reader Descriptions :=
  (descriptionSchema "APIResourceList" (Schema.texts ["groupVersion"] ++
    [("resources", .list kindSchema)])).reader fun j =>
      { apiVersion := Object.text j "groupVersion"
        entries := (Object.parts? j "resources" Description.ofJson).getD [] }

/-- The kinds that a list describes. A repeated name has the scope of its first entry. -/
def served (l : Descriptions) : List Served :=
  let (group, version) := splitApiVersion l.apiVersion
  (l.entries.filter fun d => !d.isPart).map fun d =>
    { resource :=
        { group := d.group.getD group, version := d.version.getD version
          apiVersion := joinApiVersion group version, kind := d.kind, plural := d.name }
      namespaced := ((l.entries.find? (·.name == d.name)).map (·.namespaced)).getD false }

end Descriptions

/-- The kinds of a group, the foremost version first. A version that is there twice counts twice,
each time with its first list. -/
def servedInOrder (versions : List (String × List Served)) : List Served :=
  (versions.mergeSort fun a b =>
    (VersionRank.ofVersion a.1).notAfter (VersionRank.ofVersion b.1)).flatMap fun v =>
      (versions.lookup v.1).getD []

/-- A step of discovery. -/
abbrev Discovering (σ : Type) := ExceptT CallError (StateM σ)

/-- A group without any version. -/
def CallError.emptyGroup (name : String) : CallError :=
  .client s!"Error from discovery: Empty Api Group: {name}" [s!"Empty Api Group: {name}"]

namespace Connection

variable {σ α : Type}

/-- Asks for what stands at a target. -/
def ask (c : Connection σ) (target : String) (r : Reader α) : Discovering σ α :=
  match Request.ofTarget target with
  | .ok q => fun world => c.call q r.decoder world
  | .error fault => throw (.client s!"HttpError: {fault.message}" [fault.message])

/-- The kinds in each version of a group, whose lists stand under `root`. -/
def kindsOf (c : Connection σ) (root : String) (g : Group) :
    Discovering σ (List (String × List Served)) :=
  if g.versions.isEmpty then throw (.emptyGroup g.name)
  else g.versions.mapM fun v => do
    return (v.version, (← c.ask (root ++ v.apiVersion) Descriptions.reader).served)

/-- Asks for all that an API serves. Of groups with one name the last one counts. -/
def discover (c : Connection σ) : Discovering σ Catalog := do
  let groups ← c.ask "/apis" Group.listReader
  let named ← groups.mapM fun g => do return (g.name, ← c.kindsOf "/apis/" g)
  let core ← c.kindsOf "/api/" (← c.ask "/api" Group.unnamedReader)
  let all : StringMap (List (String × List Served)) := .ofList (named ++ [("", core)])
  return .ofList (all.entries.flatMap fun g => servedInOrder g.2)

end Connection

end ClusterInventory.Api
