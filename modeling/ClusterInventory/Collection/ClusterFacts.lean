import ClusterInventory.Collection.Domain
import ClusterInventory.Collection.Listings
import ClusterInventory.Mapping.Cluster

/-! The domain of facts about the cluster itself: its version, the providers it runs on, and the
notes of its operator. -/

namespace ClusterInventory.Collection

open Api (Calls Handle Listing Request)

variable {σ : Type}

/-- Takes over version and providers. The nodes are listed only where the version is known. -/
def collectVersion (h : Handle σ) (c : Record.Cluster) :
    Calls σ (Record.Cluster × List CollectError) := do
  let info ← h.once fun connection =>
    connection.call { path := "/version" } Object.VersionInfo.reader.decoder
  match info with
  | .error e =>
    return (c, [.ofDomain Record.Cluster.domainName s!"getting server version: {e.message}"])
  | .ok info =>
    let nodes ← h.list Listing.nodes
    let (c, error) := (c.withVersion info).withProviders info.gitVersion nodes
    return (c, error.toList)

/-- Takes over the notes of the operator, which stand in the first object of their listing. Only
its first page counts. -/
def collectNotes (h : Handle σ) (c : Record.Cluster) :
    Calls σ (Record.Cluster × List CollectError) := do
  let page ← h.once fun connection world => Listing.operatorNotes.page connection none world
  match Api.absentAsEmpty (page.map (·.items)) with
  | .error e =>
    return (c, [.ofDomain Record.Cluster.domainName s!"getting operator metadata: {e.message}"])
  | .ok [] => return (c, [])
  | .ok (first :: _) => return (c.withOperatorNotes (first.data.getD .empty), [])

def clusterFacts (h : Handle σ) : Domain σ :=
  .steady Record.Cluster.domainName fun inv => do
    let (c, versionErrors) ← collectVersion h inv.cluster
    let (c, noteErrors) ← collectNotes h c
    return ({ inv with cluster := c }, versionErrors ++ noteErrors)

end ClusterInventory.Collection
