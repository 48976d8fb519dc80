import ClusterInventory.Json.Decoder
import ClusterInventory.Json.Encoder

/-! Facts about the cluster as a whole: its server version, the providers it seems to run on, and
what its operator has noted down about it. -/

namespace ClusterInventory.Record

structure Cluster where
  version : String := ""
  fullVersion : String := ""
  gitCommit : String := ""
  buildDate : String := ""
  platform : String := ""
  kubernetesProvider : String := ""
  infrastructureProvider : String := ""
  clusterName : String := ""
  clusterFqdn : String := ""
  clusterType : String := ""
  clusterDescription : String := ""
  clusterResilienceZone : String := ""
  environmentName : String := ""
  infrastructureEnvironmentType : String := ""
  operatorName : String := ""
  operatorSubscriptionId : Int64 := 0
  providerName : String := ""
  providerSubscriptionId : Int64 := 0
  customerName : String := ""
  customerId : Int64 := 0
  billingSubject : String := ""
  billingGranularity : String := ""
  hasTechnicalOperations : Bool := false
  hasTechnicalManagement : Bool := false
  hasApplicationOperations : Bool := false
  hasApplicationManagement : Bool := false
  hasCapacityManagement : Bool := false
  hasCustomOperations : Bool := false
  customOperationsUrl : String := ""
  deriving DecidableEq, Repr, Inhabited

namespace Cluster

def toJson (c : Cluster) : Json :=
  .obj [
    ("version", .str c.version), ("full_version", .str c.fullVersion),
    ("git_commit", .str c.gitCommit), ("build_date", .str c.buildDate),
    ("platform", .str c.platform), ("kubernetes_provider", .str c.kubernetesProvider),
    ("infrastructure_provider", .str c.infrastructureProvider),
    ("cluster_name", .str c.clusterName), ("cluster_fqdn", .str c.clusterFqdn),
    ("cluster_type", .str c.clusterType), ("cluster_description", .str c.clusterDescription),
    ("cluster_resilience_zone", .str c.clusterResilienceZone),
    ("environment_name", .str c.environmentName),
    ("infrastructure_environment_type", .str c.infrastructureEnvironmentType),
    ("operator_name", .str c.operatorName),
    ("operator_subscription_id", .int c.operatorSubscriptionId.toInt),
    ("provider_name", .str c.providerName),
    ("provider_subscription_id", .int c.providerSubscriptionId.toInt),
    ("customer_name", .str c.customerName), ("customer_id", .int c.customerId.toInt),
    ("billing_subject", .str c.billingSubject),
    ("billing_granularity", .str c.billingGranularity),
    ("has_technical_operations", .bool c.hasTechnicalOperations),
    ("has_technical_management", .bool c.hasTechnicalManagement),
    ("has_application_operations", .bool c.hasApplicationOperations),
    ("has_application_management", .bool c.hasApplicationManagement),
    ("has_capacity_management", .bool c.hasCapacityManagement),
    ("has_custom_operations", .bool c.hasCustomOperations),
    ("custom_operations_url", .str c.customOperationsUrl)]

def fields : Fields Cluster := do
  let version ← Fields.required "version" Decoder.string
  let fullVersion ← Fields.required "full_version" Decoder.string
  let gitCommit ← Fields.required "git_commit" Decoder.string
  let buildDate ← Fields.required "build_date" Decoder.string
  let platform ← Fields.required "platform" Decoder.string
  let kubernetesProvider ← Fields.required "kubernetes_provider" Decoder.string
  let infrastructureProvider ← Fields.required "infrastructure_provider" Decoder.string
  let clusterName ← Fields.required "cluster_name" Decoder.string
  let clusterFqdn ← Fields.required "cluster_fqdn" Decoder.string
  let clusterType ← Fields.required "cluster_type" Decoder.string
  let clusterDescription ← Fields.required "cluster_description" Decoder.string
  let clusterResilienceZone ← Fields.required "cluster_resilience_zone" Decoder.string
  let environmentName ← Fields.required "environment_name" Decoder.string
  let infrastructureEnvironmentType ←
    Fields.required "infrastructure_environment_type" Decoder.string
  let operatorName ← Fields.required "operator_name" Decoder.string
  let operatorSubscriptionId ← Fields.required "operator_subscription_id" Decoder.int64
  let providerName ← Fields.required "provider_name" Decoder.string
  let providerSubscriptionId ← Fields.required "provider_subscription_id" Decoder.int64
  let customerName ← Fields.required "customer_name" Decoder.string
  let customerId ← Fields.required "customer_id" Decoder.int64
  let billingSubject ← Fields.required "billing_subject" Decoder.string
  let billingGranularity ← Fields.required "billing_granularity" Decoder.string
  let hasTechnicalOperations ← Fields.required "has_technical_operations" Decoder.bool
  let hasTechnicalManagement ← Fields.required "has_technical_management" Decoder.bool
  let hasApplicationOperations ← Fields.required "has_application_operations" Decoder.bool
  let hasApplicationManagement ← Fields.required "has_application_management" Decoder.bool
  let hasCapacityManagement ← Fields.required "has_capacity_management" Decoder.bool
  let hasCustomOperations ← Fields.required "has_custom_operations" Decoder.bool
  let customOperationsUrl ← Fields.required "custom_operations_url" Decoder.string
  return {
    version, fullVersion, gitCommit, buildDate, platform, kubernetesProvider,
    infrastructureProvider, clusterName, clusterFqdn, clusterType, clusterDescription,
    clusterResilienceZone, environmentName, infrastructureEnvironmentType, operatorName,
    operatorSubscriptionId, providerName, providerSubscriptionId, customerName, customerId,
    billingSubject, billingGranularity, hasTechnicalOperations, hasTechnicalManagement,
    hasApplicationOperations, hasApplicationManagement, hasCapacityManagement,
    hasCustomOperations, customOperationsUrl }

def decoder : Decoder Cluster := Decoder.record fields

end Cluster

end ClusterInventory.Record
