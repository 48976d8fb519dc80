import ClusterInventory.Api.Error
import ClusterInventory.CollectError
import ClusterInventory.Object.Node
import ClusterInventory.Record.Cluster
import ClusterInventory.Text.Blank
import ClusterInventory.Text.DecimalDigit
import ClusterInventory.Text.Split

/-! Facts about the cluster: its version, the providers it runs on by what version and nodes give
away, and its operator's notes. -/

namespace ClusterInventory.Record.Cluster

/-! ## Version -/

/-- The leading decimal digits of any script, at least one, and what follows them. -/
def versionNumber? (cs : List Char) : Option (List Char × List Char) :=
  match cs.takeWhile Text.isDecimalDigit with
  | [] => none
  | ds => some (ds, cs.dropWhile Text.isDecimalDigit)

def afterPoint? : List Char → Option (List Char)
  | '.' :: rest => some rest
  | _ => none

/-- The three numbers that a text begins with, points between them. -/
def threeNumbers? (cs : List Char) : Option (List Char) := do
  let (major, rest) ← versionNumber? cs
  let (minor, rest) ← versionNumber? (← afterPoint? rest)
  let (patch, _) ← versionNumber? (← afterPoint? rest)
  return major ++ '.' :: minor ++ '.' :: patch

/-- The plain version in a server's version text: `v1.27.4+k3s1` gives `1.27.4`. A text of another
form only loses its leading letters `v`. -/
def plainVersion (full : String) : String :=
  let cs := full.toList
  let afterV := if cs.head? = some 'v' then cs.drop 1 else cs
  match threeNumbers? afterV with
  | some version => String.ofList version
  | none => Text.dropLeading 'v' full

/-- Takes over the server's account of its version. -/
def withVersion (c : Cluster) (info : Object.VersionInfo) : Cluster :=
  { c with
    version := plainVersion info.gitVersion
    fullVersion := info.gitVersion
    gitCommit := info.gitCommit
    buildDate := info.buildDate
    platform := info.platform }

/-! ## Providers -/

def undetected : String := "undetected"

/-- Who distributes the cluster's software. -/
def kubernetesProviderOf (version : String) (nodes : List Object.Node) : String :=
  if Text.contains version "+k3s" then "k3s"
  else if Text.contains version "+rke2" then "rke2"
  else if Text.contains version "-eks-" then "eks"
  else if Text.contains version "-gke." then "gke"
  else if nodes.any fun n => (n.objectMeta.label? "kubernetes.azure.com/cluster").isSome then "aks"
  else undetected

/-- What one node gives away about the machines that the cluster runs on. -/
def infrastructureOfNode? (n : Object.Node) : Option String :=
  let region := (n.objectMeta.label? "topology.kubernetes.io/region").getD ""
  let legacy := (n.objectMeta.label? "failure-domain.beta.kubernetes.io/region").getD ""
  if Text.contains region "netic" || Text.contains legacy "aalborg" then some "netic"
  else if ((n.spec.bind (·.providerId)).map (Text.startsWith · "kind")).getD false then
    some "docker"
  else none

/-- Whose machines the cluster runs on: the distributor may say so, or the first node that gives
anything away. -/
def infrastructureProviderOf (kubernetesProvider : String) (nodes : List Object.Node) : String :=
  if kubernetesProvider = "aks" then "azure"
  else if kubernetesProvider = "eks" then "aws"
  else if kubernetesProvider = "gke" then "gcp"
  else (nodes.findSome? infrastructureOfNode?).getD undetected

/-- The name of the domain that collects these facts. -/
def domainName : String := "cluster"

/-- Notes both providers. Without a list of nodes only the version counts, and the failed listing
is an error. -/
def withProviders (c : Cluster) (version : String)
    (nodes : Except Api.CallError (List Object.Node)) : Cluster × Option CollectError :=
  let listed := match nodes with
    | .ok ns => ns
    | .error _ => []
  let error := match nodes with
    | .ok _ => none
    | .error e =>
      some (.ofDomain domainName ("listing nodes for provider detection: " ++ e.message))
  let kubernetes := kubernetesProviderOf version listed
  let infrastructure := infrastructureProviderOf kubernetes listed
  ({ c with
      kubernetesProvider := if infrastructure = "docker" then "kind" else kubernetes
      infrastructureProvider := infrastructure }, error)

/-! ## The operator's notes -/

/-- A yes or no as it is noted; anything unclear is a no. -/
def flagOf (s : Option String) : Bool :=
  match s with
  | some v => ["1", "t", "T", "true", "TRUE", "True"].contains v
  | none => false

/-- A whole number of 64 bits with sign, blanks around it aside; anything else is zero. -/
def numberOf (s : Option String) : Int64 :=
  match (s.map fun v => Text.trim v.toList).bind Text.readInt? with
  | some n => if -9223372036854775808 ≤ n && n ≤ 9223372036854775807 then Int64.ofInt n else 0
  | none => 0

/-- The domain name of a cluster that is noted without one. -/
def derivedFqdn (clusterName providerName clusterType : String) : String :=
  clusterName ++ "." ++ providerName ++ "." ++ clusterType ++ ".k8s.netic.dk"

/-- Takes over the operator's notes; a note that is missing counts as empty. -/
def withOperatorNotes (c : Cluster) (notes : StringMap String) : Cluster :=
  let note (key : String) : String := (notes.find? key).getD ""
  let clusterName := note "cluster-name"
  let clusterType := note "cluster-type"
  let providerName := note "provider-name"
  let fqdn := note "cluster-fqdn"
  let environment := note "environment-name"
  { c with
    clusterName, clusterType, providerName
    clusterFqdn :=
      if fqdn.isEmpty && !clusterName.isEmpty && !providerName.isEmpty && !clusterType.isEmpty then
        derivedFqdn clusterName providerName clusterType
      else fqdn
    clusterDescription := note "cluster-description"
    clusterResilienceZone := note "cluster-resilience-zone"
    environmentName := if environment.isEmpty then "NA" else environment
    infrastructureEnvironmentType := note "infrastructure-environment-type"
    operatorName := note "operator-name"
    operatorSubscriptionId := numberOf (notes.find? "operator-subscription-id")
    providerSubscriptionId := numberOf (notes.find? "provider-subscription-id")
    customerName := note "customer-name"
    customerId := numberOf (notes.find? "customer-id")
    billingSubject := note "billing-subject"
    billingGranularity := note "billing-granularity"
    hasTechnicalOperations := flagOf (notes.find? "has-technical-operations")
    hasTechnicalManagement := flagOf (notes.find? "has-technical-management")
    hasApplicationOperations := flagOf (notes.find? "has-application-operations")
    hasApplicationManagement := flagOf (notes.find? "has-application-management")
    hasCapacityManagement := flagOf (notes.find? "has-capacity-management")
    hasCustomOperations := flagOf (notes.find? "has-custom-operations")
    customOperationsUrl := note "custom-operations-url" }

end ClusterInventory.Record.Cluster
