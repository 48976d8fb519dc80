import ClusterInventory.Json.Decoder
import ClusterInventory.Json.Encoder

/-! Acknowledgments: what an inventory server knows about a cluster and tells in return for its
inventory. Everything may be missing from one; texts that are empty and flags that are unset are
left out when it is written. -/

namespace ClusterInventory.Delivery

/-- A text that is left out when it is empty. -/
def textMember (key s : String) : List (String × Json) :=
  Json.memberIf (s != "") key (.str s)

/-- A text that may be missing. -/
def textField (key : String) : Fields String := Fields.withDefault key "" Decoder.string

structure ClusterAck where
  name : String := ""
  operatorName : String := ""
  providerName : String := ""
  id : String := ""
  deriving DecidableEq, Repr, Inhabited

namespace ClusterAck

def toJson (c : ClusterAck) : Json :=
  .obj (textMember "name" c.name ++ textMember "operator_name" c.operatorName ++
    textMember "provider_name" c.providerName ++ textMember "id" c.id)

def fields : Fields ClusterAck := do
  let name ← textField "name"
  let operatorName ← textField "operator_name"
  let providerName ← textField "provider_name"
  let id ← textField "id"
  return { name, operatorName, providerName, id }

def decoder : Decoder ClusterAck := Decoder.record fields

end ClusterAck

/-- The services that are agreed on for a cluster. A flag may be unset. -/
structure ServiceLevel where
  hasTechnicalOperations : Option Bool := none
  hasTechnicalManagement : Option Bool := none
  hasApplicationOperations : Option Bool := none
  hasApplicationManagement : Option Bool := none
  hasCustomOperations : Option Bool := none
  customOperationsUrl : String := ""
  deriving DecidableEq, Repr, Inhabited

namespace ServiceLevel

def toJson (s : ServiceLevel) : Json :=
  .obj (Json.memberOf "has_technical_operations" .bool s.hasTechnicalOperations ++
    Json.memberOf "has_technical_management" .bool s.hasTechnicalManagement ++
    Json.memberOf "has_application_operations" .bool s.hasApplicationOperations ++
    Json.memberOf "has_application_management" .bool s.hasApplicationManagement ++
    Json.memberOf "has_custom_operations" .bool s.hasCustomOperations ++
    textMember "custom_operations_url" s.customOperationsUrl)

def fields : Fields ServiceLevel := do
  let hasTechnicalOperations ← Fields.optional "has_technical_operations" Decoder.bool
  let hasTechnicalManagement ← Fields.optional "has_technical_management" Decoder.bool
  let hasApplicationOperations ← Fields.optional "has_application_operations" Decoder.bool
  let hasApplicationManagement ← Fields.optional "has_application_management" Decoder.bool
  let hasCustomOperations ← Fields.optional "has_custom_operations" Decoder.bool
  let customOperationsUrl ← textField "custom_operations_url"
  return {
    hasTechnicalOperations, hasTechnicalManagement, hasApplicationOperations,
    hasApplicationManagement, hasCustomOperations, customOperationsUrl }

def decoder : Decoder ServiceLevel := Decoder.record fields

end ServiceLevel

/-- What a server knows beside the names of a cluster. -/
structure AckMetaData where
  clusterType : String := ""
  description : String := ""
  partition : String := ""
  region : String := ""
  environmentName : String := ""
  infrastructureProvider : String := ""
  resilienceZone : String := ""
  serviceLevel : ServiceLevel := {}
  subscriptionId : String := ""
  deriving DecidableEq, Repr, Inhabited

namespace AckMetaData

def toJson (m : AckMetaData) : Json :=
  .obj (textMember "cluster_type" m.clusterType ++ textMember "description" m.description ++
    textMember "partition" m.partition ++ textMember "region" m.region ++
    textMember "environment_name" m.environmentName ++
    textMember "infrastructure_provider" m.infrastructureProvider ++
    textMember "resilience_zone" m.resilienceZone ++
    [("service_level", m.serviceLevel.toJson)] ++
    textMember "subscription_id" m.subscriptionId)

def fields : Fields AckMetaData := do
  let clusterType ← textField "cluster_type"
  let description ← textField "description"
  let partition ← textField "partition"
  let region ← textField "region"
  let environmentName ← textField "environment_name"
  let infrastructureProvider ← textField "infrastructure_provider"
  let resilienceZone ← textField "resilience_zone"
  let serviceLevel ← Fields.withDefault "service_level" {} ServiceLevel.decoder
  let subscriptionId ← textField "subscription_id"
  return {
    clusterType, description, partition, region, environmentName, infrastructureProvider,
    resilienceZone, serviceLevel, subscriptionId }

def decoder : Decoder AckMetaData := Decoder.record fields

end AckMetaData

/-- A server's acknowledgment of an inventory. -/
structure AckResponse where
  cluster : ClusterAck := {}
  metaData : AckMetaData := {}
  message : Option String := none
  deriving DecidableEq, Repr, Inhabited

namespace AckResponse

def toJson (a : AckResponse) : Json :=
  .obj ([("cluster", a.cluster.toJson), ("meta_data", a.metaData.toJson)] ++
    Json.memberOf "message" .str a.message)

def fields : Fields AckResponse := do
  let cluster ← Fields.withDefault "cluster" {} ClusterAck.decoder
  let metaData ← Fields.withDefault "meta_data" {} AckMetaData.decoder
  let message ← Fields.optional "message" Decoder.string
  return { cluster, metaData, message }

def decoder : Decoder AckResponse := Decoder.record fields

end AckResponse

/-- What is known of a cluster since the last delivery of its inventory. -/
structure DeliveryMetadata where
  updated : Instant
  cluster : ClusterAck
  metaData : AckMetaData
  deriving DecidableEq, Inhabited

namespace DeliveryMetadata

def ofAck (a : AckResponse) (updated : Instant) : DeliveryMetadata :=
  { updated, cluster := a.cluster, metaData := a.metaData }

/-- The members of the written form that do not depend on the moment of delivery. -/
def contentMembers (m : DeliveryMetadata) : List (String × Json) :=
  [("cluster", m.cluster.toJson), ("meta_data", m.metaData.toJson)]

def toJson (m : DeliveryMetadata) : Json :=
  .obj (("updated", Json.instant m.updated) :: m.contentMembers)

def fields : Fields DeliveryMetadata := do
  let updated ← Fields.required "updated" Decoder.instant
  let cluster ← Fields.required "cluster" ClusterAck.decoder
  let metaData ← Fields.required "meta_data" AckMetaData.decoder
  return { updated, cluster, metaData }

def decoder : Decoder DeliveryMetadata := Decoder.record fields

end DeliveryMetadata

/-- The last acknowledged delivery, if there was one. -/
abbrev AckCache := Option DeliveryMetadata

end ClusterInventory.Delivery
