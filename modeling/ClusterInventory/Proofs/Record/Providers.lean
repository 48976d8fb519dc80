import ClusterInventory.Mapping.Cluster
import ClusterInventory.Proofs.Text.Split

/-!
# Providers of a cluster

The distributor of a cluster's software is told by the version text or by the nodes, and the owner
of its machines by the distributor or by the nodes; a node that is a container then overrules the
distributor. What is recorded of both goes together (`providers_consistent`).
-/

namespace ClusterInventory

/-- The node is in a region of Netic, by the label of regions or by the former one. -/
def Object.Node.InNeticRegion (n : Object.Node) : Prop :=
  (∃ region, n.objectMeta.label? "topology.kubernetes.io/region" = some region ∧
    "netic".toList <:+: region.toList) ∨
  ∃ region, n.objectMeta.label? "failure-domain.beta.kubernetes.io/region" = some region ∧
    "aalborg".toList <:+: region.toList

/-- The node is a container of `kind`, by its provider id. -/
def Object.Node.IsKindContainer (n : Object.Node) : Prop :=
  ∃ spec id, n.spec = some spec ∧ spec.providerId = some id ∧ "kind".toList <+: id.toList

namespace Record.Cluster

variable {version kubernetes : String} {n : Object.Node} {nodes before after : List Object.Node}

/-! ## The distributor -/

/-- Marks of distributors in version texts, the one that counts first in front. -/
def versionMarks : List (String × String) :=
  [("+k3s", "k3s"), ("+rke2", "rke2"), ("-eks-", "eks"), ("-gke.", "gke")]

/-- The version text alone tells the distributor: its mark stands there and none before it does. -/
def Tells (version distributor : String) : Prop :=
  ∃ before mark after, versionMarks = before ++ (mark, distributor) :: after ∧
    mark.toList <:+: version.toList ∧ ∀ m ∈ before, ¬ m.1.toList <:+: version.toList

theorem kubernetesProviderOf_eq (version : String) (nodes : List Object.Node) :
    kubernetesProviderOf version nodes =
      ((versionMarks.find? fun m => Text.contains version m.1).map (·.2)).getD
        (if nodes.any fun n => (n.objectMeta.label? "kubernetes.azure.com/cluster").isSome then
          "aks"
        else undetected) := by
  simp only [kubernetesProviderOf, versionMarks, List.find?_cons, List.find?_nil]
  repeat' split
  all_goals simp_all

/-- Where the version text tells the distributor, the nodes do not count. -/
theorem kubernetesProviderOf_of_tells {distributor : String} (h : Tells version distributor)
    (nodes : List Object.Node) : kubernetesProviderOf version nodes = distributor := by
  obtain ⟨before, mark, after, hmarks, hmark, hbefore⟩ := h
  have hfind : versionMarks.find? (fun m => Text.contains version m.1) = some (mark, distributor) :=
    List.find?_eq_some_iff_append.2 ⟨Text.contains_iff.2 hmark, before, after, hmarks,
      fun m hm => by simpa using mt Text.contains_iff.1 (hbefore m hm)⟩
  rw [kubernetesProviderOf_eq, hfind]
  rfl

theorem kubernetesProviderOf_mem (version : String) (nodes : List Object.Node) :
    kubernetesProviderOf version nodes ∈ ["k3s", "rke2", "eks", "gke", "aks", undetected] := by
  unfold kubernetesProviderOf
  repeat' split
  all_goals simp

/-! ## The owner of the machines -/

theorem inNeticRegion_iff : n.InNeticRegion ↔
    (Text.contains ((n.objectMeta.label? "topology.kubernetes.io/region").getD "") "netic" ||
      Text.contains ((n.objectMeta.label? "failure-domain.beta.kubernetes.io/region").getD "")
        "aalborg") = true := by
  rw [Bool.or_eq_true, Text.contains_iff, Text.contains_iff, Object.Node.InNeticRegion]
  cases n.objectMeta.label? "topology.kubernetes.io/region" <;>
    cases n.objectMeta.label? "failure-domain.beta.kubernetes.io/region" <;> simp

theorem isKindContainer_iff : n.IsKindContainer ↔
    ((n.spec.bind (·.providerId)).map (Text.startsWith · "kind")).getD false = true := by
  unfold Object.Node.IsKindContainer
  cases n.spec with
  | none => simp
  | some spec => cases hid : spec.providerId <;> simp [hid, Text.startsWith_iff]

theorem infrastructureOfNode?_of_region (h : n.InNeticRegion) :
    infrastructureOfNode? n = some "netic" := by
  rw [infrastructureOfNode?, if_pos (inNeticRegion_iff.1 h)]

theorem infrastructureOfNode?_of_kind (hregion : ¬ n.InNeticRegion) (h : n.IsKindContainer) :
    infrastructureOfNode? n = some "docker" := by
  rw [infrastructureOfNode?, if_neg (mt inNeticRegion_iff.2 hregion),
    if_pos (isKindContainer_iff.1 h)]

theorem infrastructureOfNode?_of_neither (hregion : ¬ n.InNeticRegion)
    (hkind : ¬ n.IsKindContainer) : infrastructureOfNode? n = none := by
  rw [infrastructureOfNode?, if_neg (mt inNeticRegion_iff.2 hregion),
    if_neg (mt isKindContainer_iff.2 hkind)]

/-- The distributor does not tell whose the machines are. -/
def LeavesOpen (kubernetes : String) : Prop := kubernetes ∉ ["aks", "eks", "gke"]

instance (kubernetes : String) : Decidable (LeavesOpen kubernetes) :=
  inferInstanceAs (Decidable (_ ∉ _))

theorem infrastructureProviderOf_of_open (hopen : LeavesOpen kubernetes)
    (nodes : List Object.Node) :
    infrastructureProviderOf kubernetes nodes =
      (nodes.findSome? infrastructureOfNode?).getD undetected := by
  simp only [LeavesOpen, List.mem_cons, List.not_mem_nil, or_false, not_or] at hopen
  rw [infrastructureProviderOf, if_neg hopen.1, if_neg hopen.2.1, if_neg hopen.2.2]

/-- The first node that gives anything away decides. -/
theorem infrastructureProviderOf_of_first {owner : String} (hopen : LeavesOpen kubernetes)
    (hbefore : ∀ m ∈ before, ¬ m.InNeticRegion ∧ ¬ m.IsKindContainer)
    (hn : infrastructureOfNode? n = some owner) :
    infrastructureProviderOf kubernetes (before ++ n :: after) = owner := by
  have hfirst : (before ++ n :: after).findSome? infrastructureOfNode? = some owner :=
    List.findSome?_eq_some_iff.2 ⟨before, n, after, rfl, hn, fun m hm =>
      infrastructureOfNode?_of_neither (hbefore m hm).1 (hbefore m hm).2⟩
  rw [infrastructureProviderOf_of_open hopen, hfirst]
  rfl

theorem infrastructureProviderOf_of_none (hopen : LeavesOpen kubernetes)
    (h : ∀ m ∈ nodes, ¬ m.InNeticRegion ∧ ¬ m.IsKindContainer) :
    infrastructureProviderOf kubernetes nodes = undetected := by
  have hnone : nodes.findSome? infrastructureOfNode? = none :=
    List.findSome?_eq_none_iff.2 fun m hm => infrastructureOfNode?_of_neither (h m hm).1 (h m hm).2
  rw [infrastructureProviderOf_of_open hopen, hnone]
  rfl

theorem infrastructureProviderOf_mem (hopen : LeavesOpen kubernetes) (nodes : List Object.Node) :
    infrastructureProviderOf kubernetes nodes ∈ ["netic", "docker", undetected] := by
  rw [infrastructureProviderOf_of_open hopen]
  cases hfirst : nodes.findSome? infrastructureOfNode? with
  | none => simp
  | some owner =>
    obtain ⟨n, _, hn⟩ := List.exists_of_findSome?_eq_some hfirst
    by_cases hregion : n.InNeticRegion
    · rw [infrastructureOfNode?_of_region hregion] at hn
      cases hn
      simp
    · by_cases hkind : n.IsKindContainer
      · rw [infrastructureOfNode?_of_kind hregion hkind] at hn
        cases hn
        simp
      · rw [infrastructureOfNode?_of_neither hregion hkind] at hn
        cases hn

/-! ## Both together -/

/-- Owners of machines and the distributors that go with them, each only with the other. -/
def pairedProviders : List (String × String) :=
  [("azure", "aks"), ("aws", "eks"), ("gcp", "gke"), ("docker", "kind")]

/-- The nodes that count: those of a listing that succeeded. -/
def listedNodes (nodes : Except Api.CallError (List Object.Node)) : List Object.Node :=
  nodes.toOption.getD []

theorem withProviders_eq (c : Cluster) (version : String)
    (nodes : Except Api.CallError (List Object.Node)) :
    (c.withProviders version nodes).1 =
      let kubernetes := kubernetesProviderOf version (listedNodes nodes)
      let infrastructure := infrastructureProviderOf kubernetes (listedNodes nodes)
      { c with
        kubernetesProvider := if infrastructure = "docker" then "kind" else kubernetes
        infrastructureProvider := infrastructure } := by
  cases nodes <;> rfl

theorem isSome_withProviders_iff (c : Cluster) (version : String)
    (nodes : Except Api.CallError (List Object.Node)) :
    (c.withProviders version nodes).2.isSome = true ↔ ∃ e, nodes = .error e := by
  cases nodes <;> simp [withProviders]

theorem paired_of_open : ∀ kubernetes ∈ ["k3s", "rke2", "eks", "gke", "aks", undetected],
    LeavesOpen kubernetes → ∀ owner ∈ ["netic", "docker", undetected], ∀ p ∈ pairedProviders,
      owner = p.1 ↔ (if owner = "docker" then "kind" else kubernetes) = p.2 := by
  decide +kernel

/-- Each owner of machines stands only with its distributor, and the other way round. -/
theorem paired_of_withProviders (c : Cluster) (version : String)
    (nodes : Except Api.CallError (List Object.Node)) :
    ∀ p ∈ pairedProviders, (c.withProviders version nodes).1.infrastructureProvider = p.1 ↔
      (c.withProviders version nodes).1.kubernetesProvider = p.2 := by
  rw [withProviders_eq]
  generalize listedNodes nodes = listed
  have hdistributor := kubernetesProviderOf_mem version listed
  generalize kubernetesProviderOf version listed = kubernetes at hdistributor ⊢
  by_cases hopen : LeavesOpen kubernetes
  · exact paired_of_open _ hdistributor hopen _ (infrastructureProviderOf_mem hopen listed)
  · have htold : kubernetes ∈ ["aks", "eks", "gke"] := Decidable.not_not.1 hopen
    simp only [List.mem_cons, List.not_mem_nil, or_false] at htold
    rcases htold with rfl | rfl | rfl
    · have howner : infrastructureProviderOf "aks" listed = "azure" := rfl
      simp [howner, pairedProviders]
    · have howner : infrastructureProviderOf "eks" listed = "aws" := rfl
      simp [howner, pairedProviders]
    · have howner : infrastructureProviderOf "gke" listed = "gcp" := rfl
      simp [howner, pairedProviders]

/-- How the two providers go together.

* Owners of machines and distributors stand in pairs.
* A distributor that the version text tells as `eks` or `gke` leaves nothing to the nodes.
* A listing that failed counts as one without nodes, and only then is there an error.
* Where the distributor leaves it open, the first node that is in a region of Netic or a container
  of `kind` tells the owner, the region first. Without such a node it is undetected.
* Nothing else of the cluster is changed. -/
theorem providers_consistent (c : Cluster) (version : String)
    (nodes : Except Api.CallError (List Object.Node)) :
    let found := (c.withProviders version nodes).1
    let kubernetes := kubernetesProviderOf version (listedNodes nodes)
    (∀ p ∈ pairedProviders, found.infrastructureProvider = p.1 ↔ found.kubernetesProvider = p.2) ∧
    (Tells version "eks" ∨ Tells version "gke" →
      ∀ nodes', (c.withProviders version nodes').1 = found) ∧
    (∀ e, nodes = .error e → found = (c.withProviders version (.ok [])).1) ∧
    ((c.withProviders version nodes).2.isSome = true ↔ ∃ e, nodes = .error e) ∧
    (LeavesOpen kubernetes →
      (∀ before n after, listedNodes nodes = before ++ n :: after →
        (∀ m ∈ before, ¬ m.InNeticRegion ∧ ¬ m.IsKindContainer) →
        (n.InNeticRegion → found.infrastructureProvider = "netic") ∧
        (¬ n.InNeticRegion → n.IsKindContainer → found.infrastructureProvider = "docker")) ∧
      ((∀ m ∈ listedNodes nodes, ¬ m.InNeticRegion ∧ ¬ m.IsKindContainer) →
        found.infrastructureProvider = undetected)) ∧
    { found with
      kubernetesProvider := c.kubernetesProvider
      infrastructureProvider := c.infrastructureProvider } = c := by
  intro found kubernetes
  have hfound : found.infrastructureProvider =
      infrastructureProviderOf kubernetes (listedNodes nodes) := by
    simp only [found, withProviders_eq, kubernetes]
  refine ⟨paired_of_withProviders c version nodes, fun htells nodes' => ?_, ?_,
    isSome_withProviders_iff c version nodes, fun hopen => ⟨?_, fun hnone => ?_⟩, ?_⟩
  · simp only [found, withProviders_eq]
    rcases htells with htells | htells <;> simp only [kubernetesProviderOf_of_tells htells] <;> rfl
  · rintro e rfl
    rfl
  · intro before n after hlisted hbefore
    rw [hfound, hlisted]
    exact ⟨fun hregion => infrastructureProviderOf_of_first hopen hbefore
        (infrastructureOfNode?_of_region hregion),
      fun hregion hkind => infrastructureProviderOf_of_first hopen hbefore
        (infrastructureOfNode?_of_kind hregion hkind)⟩
  · rw [hfound]
    exact infrastructureProviderOf_of_none hopen hnone
  · simp only [found, withProviders_eq]

/-- A node that tells nothing. -/
def plainNode : Object.Node := { objectMeta := {} }

/-- A container of `kind` in a region of Netic. -/
def regionNode : Object.Node :=
  { objectMeta := { labels := some (.ofList [("topology.kubernetes.io/region", "dk-netic-1")]) }
    spec := some { providerId := some "kind://docker/kind/worker" } }

/-- The region of a container wins over what contains it, whatever nodes stand before. -/
theorem providers_consistent_regionNode :
    ((({} : Cluster).withProviders "v1.29.1" (.ok [plainNode, regionNode])).1
      ).infrastructureProvider = "netic" := by
  obtain ⟨-, -, -, -, hfirst, -⟩ :=
    providers_consistent {} "v1.29.1" (.ok [plainNode, regionNode])
  have hopen : LeavesOpen (kubernetesProviderOf "v1.29.1" [plainNode, regionNode]) := by
    decide +kernel
  have hplain : ¬ plainNode.InNeticRegion ∧ ¬ plainNode.IsKindContainer :=
    ⟨mt inNeticRegion_iff.1 (by decide +kernel), mt isKindContainer_iff.1 (by decide +kernel)⟩
  have hregion : regionNode.InNeticRegion := inNeticRegion_iff.2 (by decide +kernel)
  exact ((hfirst hopen).1 [plainNode] regionNode [] rfl (by simpa using hplain)).1 hregion

end Record.Cluster

end ClusterInventory
