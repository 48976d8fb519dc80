import ClusterInventory.Api.Catalog
import ClusterInventory.Attempt
import ClusterInventory.Mapping.Meta
import ClusterInventory.Record.CustomResources

/-! Records of the resources of operators. Their objects are read loosely: what is missing or of
another type is empty, zero or absent. -/

namespace ClusterInventory

namespace Object.Dynamic

/-- The text at a path, empty when there is none. -/
def textAt (o : Dynamic) (path : List String) : String :=
  match o.data.at? path with
  | some (.str s) => s
  | _ => ""

/-- The whole number of 64 bits with sign at a path, zero when there is none. -/
def intAt (o : Dynamic) (path : List String) : Int64 :=
  ((o.data.at? path).bind Decoder.int64).getD 0

/-- The moment at a path, if there is one in the strict form. -/
def instantAt (o : Dynamic) (path : List String) : Option Instant :=
  match o.data.at? path with
  | some (.str s) => Instant.readStrict? s.toList
  | _ => none

end Object.Dynamic

namespace Record

def CustomResources.ofCatalog (c : Api.Catalog) : CustomResources :=
  { hasVelero := c.has "velero.io/v1/backups"
    hasKciRocks := c.has "kci.rocks/v1alpha1/dbinstances"
    hasRabbitMq := c.has "rabbitmq.com/v1beta1/rabbitmqclusters"
    hasCalico := c.has "crd.projectcalico.org/v1/clusterinformations"
    hasContour := c.has "projectcontour.io/v1/httpproxies"
    hasExternalSecrets := c.has "external-secrets.io/v1alpha1/secretstores"
    hasCertManager := c.has "cert-manager.io/v1/issuers"
    hasGitopsToolkit := c.has "source.toolkit.fluxcd.io/v1beta2/gitrepositories"
    hasPrometheus := c.has "monitoring.coreos.com/v1/prometheuses" }

def VeleroBackup.ofObject (o : Object.Dynamic) : Attempt VeleroBackup :=
  return {
    name := o.objectMeta.shownName
    «namespace» := o.objectMeta.namespace.getD ""
    scheduleName := (o.objectMeta.label? "velero.io/schedule-name").getD ""
    storageLocation := o.textAt ["spec", "storageLocation"]
    phase := o.textAt ["status", "phase"]
    startTimestamp := o.instantAt ["status", "startTimestamp"]
    completionTimestamp := o.instantAt ["status", "completionTimestamp"]
    expiration := o.instantAt ["status", "expiration"]
    itemsBackedUp := o.intAt ["status", "progress", "itemsBackedUp"]
    totalItems := o.intAt ["status", "progress", "totalItems"]
    warnings := o.intAt ["status", "warnings"]
    errors := o.intAt ["status", "errors"] }

def VeleroSchedule.ofObject (o : Object.Dynamic) : Attempt VeleroSchedule :=
  return {
    name := o.objectMeta.shownName
    «namespace» := o.objectMeta.namespace.getD ""
    schedule := o.textAt ["spec", "schedule"]
    phase := o.textAt ["status", "phase"]
    lastBackup := o.instantAt ["status", "lastBackup"] }

def DbInstance.ofObject (o : Object.Dynamic) : Attempt DbInstance :=
  return {
    objectMeta := .ofObject o.objectMeta
    engine := o.textAt ["spec", "engine"]
    host := o.textAt ["spec", "generic", "host"]
    port := o.intAt ["spec", "generic", "port"]
    phase := o.textAt ["status", "phase"] }

def RabbitMqCluster.ofObject (o : Object.Dynamic) : Attempt RabbitMqCluster :=
  return { objectMeta := .ofObject o.objectMeta, image := o.textAt ["spec", "image"] }

/-- What is recorded of Calico's account of the cluster. -/
def Calico.ofObject (o : Object.Dynamic) : Calico :=
  { version := o.textAt ["spec", "calicoVersion"]
    creationTimestamp := o.objectMeta.creationTimestamp
    labels := o.objectMeta.labels.getD .empty }

end Record

def Object.Dynamic.subject (o : Object.Dynamic) : String :=
  match o.objectMeta.namespace with
  | some ns => ns ++ "/" ++ o.objectMeta.shownName
  | none => o.objectMeta.shownName

end ClusterInventory
