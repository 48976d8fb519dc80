import ClusterInventory.Mapping.CustomResources
import ClusterInventory.Proofs.Text.Split

/-!
# The catalog as an index

Of the entries with one group, version and kind the catalog finds the last one (`find?_ofList`), and
it keeps the plural names of all entries, under keys that each spell one group, version and plural
name (`readKey?_eq_some_iff`). Main result: `index_of_entries`.
-/

namespace ClusterInventory.Api

/-- A resource as it is served: group and version stand beside each other in one text, and no name
in its keys has a slash. -/
structure Resource.WellNamed (r : Resource) : Prop where
  apiVersion : r.apiVersion = joinApiVersion r.group r.version
  group : '/' ∉ r.group.toList
  version : '/' ∉ r.version.toList
  plural : '/' ∉ r.plural.toList

/-- An owner reference may name the kind in this way. -/
def Served.IsNamed (s : Served) (apiVersion kind : String) : Prop :=
  splitApiVersion apiVersion = (s.resource.group, s.resource.version) ∧ s.resource.kind = kind

instance (s : Served) (apiVersion kind : String) : Decidable (s.IsNamed apiVersion kind) :=
  inferInstanceAs (Decidable (_ ∧ _))

/-- Group, version and kind are the same. -/
def Served.SameKind (s t : Served) : Prop :=
  s.resource.group = t.resource.group ∧ s.resource.version = t.resource.version ∧
    s.resource.kind = t.resource.kind

/-- Some entry has this group, version and plural name. -/
def Serves (entries : List Served) (group version plural : String) : Prop :=
  ∃ s ∈ entries, s.resource.group = group ∧ s.resource.version = version ∧
    s.resource.plural = plural

/-! ## Group and version as one text -/

section

variable {group version plural key : String} (hgroup : '/' ∉ group.toList)
  (hversion : '/' ∉ version.toList)

include hgroup hversion

theorem splitApiVersion_joinApiVersion :
    splitApiVersion (joinApiVersion group version) = (group, version) := by
  unfold joinApiVersion splitApiVersion
  split
  · next hempty =>
    rw [Text.splitOnce_of_not_mem (c := '/') rfl hversion, String.isEmpty_iff.1 hempty]
    rfl
  · rw [Text.splitOnce_append (c := '/') rfl hgroup]
    rfl

/-- An entry can be named by its own group and version. -/
theorem isNamed_joinApiVersion_iff {s : Served} {kind : String} :
    s.IsNamed (joinApiVersion group version) kind ↔
      s.resource.group = group ∧ s.resource.version = version ∧ s.resource.kind = kind := by
  rw [Served.IsNamed, splitApiVersion_joinApiVersion hgroup hversion, Prod.mk.injEq, and_assoc,
    eq_comm, eq_comm (a := version)]

/-! ## Keys of plural names -/

/-- Group, version and plural name that a key such as `velero.io/v1/backups` spells. A key of the
unnamed group begins with the version. -/
def readKey? (key : String) : Option (String × String × String) :=
  match key.toList.splitOn '/' with
  | [version, plural] => some ("", .ofList version, .ofList plural)
  | [group, version, plural] =>
    if group = [] then none else some (.ofList group, .ofList version, .ofList plural)
  | _ => none

/-- What stands between the slashes of a key. -/
theorem splitOn_key (hplural : '/' ∉ plural.toList) :
    (joinApiVersion group version ++ "/" ++ plural).toList.splitOn '/' =
      if group = "" then [version.toList, plural.toList]
      else [group.toList, version.toList, plural.toList] := by
  simp only [joinApiVersion, String.isEmpty_iff]
  split
  · have hparts : List.splitOn '/' (['/'].intercalate [version.toList, plural.toList]) = _ :=
      List.splitOn_intercalate '/' (by simp [hversion, hplural]) (by simp)
    simpa using hparts
  · have hparts :
        List.splitOn '/' (['/'].intercalate [group.toList, version.toList, plural.toList]) = _ :=
      List.splitOn_intercalate '/' (by simp [hgroup, hversion, hplural]) (by simp)
    simpa using hparts

/-- A key spells no other group, version and plural name than those that it is made of. -/
theorem readKey?_eq_some_iff (hplural : '/' ∉ plural.toList) :
    readKey? key = some (group, version, plural) ↔
      key = joinApiVersion group version ++ "/" ++ plural := by
  constructor
  · intro hread
    have hkey : ['/'].intercalate (key.toList.splitOn '/') = key.toList :=
      List.intercalate_splitOn '/'
    rw [← String.toList_inj, ← hkey]
    unfold readKey? at hread
    split at hread
    · next hparts =>
      cases hread
      simp [hparts, joinApiVersion]
    · next hparts =>
      split at hread
      · cases hread
      · next hne =>
        cases hread
        simp [hparts, joinApiVersion, String.isEmpty_iff, ← String.toList_inj, hne]
    · cases hread
  · rintro rfl
    rw [readKey?, splitOn_key hgroup hversion hplural]
    by_cases hempty : group = ""
    · simp [hempty]
    · simp [hempty]

end

namespace Catalog

variable {entries : List Served}

/-! ## Filling the catalog -/

theorem ofList_append (entries : List Served) (s : Served) :
    ofList (entries ++ [s]) = (ofList entries).insert s :=
  List.foldl_concat ..

theorem find?_insert (c : Catalog) (s : Served) (apiVersion kind : String) :
    (c.insert s).find? apiVersion kind =
      if s.IsNamed apiVersion kind then some s else c.find? apiVersion kind := by
  simp only [find?, insert, Std.HashMap.getElem?_insert, Served.IsNamed, beq_iff_eq,
    Prod.ext_iff]
  grind

theorem has_insert (c : Catalog) (s : Served) (key : String) :
    (c.insert s).has key =
      (s.resource.apiVersion ++ "/" ++ s.resource.plural == key || c.has key) :=
  Std.HashSet.contains_insert

/-- The last entry of the list that is named so. -/
theorem find?_ofList (entries : List Served) (apiVersion kind : String) :
    (ofList entries).find? apiVersion kind =
      entries.reverse.find? fun s => s.IsNamed apiVersion kind := by
  induction entries using List.reverseRecOn with
  | nil => exact Std.HashMap.getElem?_empty
  | append_singleton entries s ih =>
    rw [ofList_append, find?_insert, ih, List.reverse_concat, List.find?_cons]
    split <;> simp_all

theorem find?_ofList_eq_some_iff {apiVersion kind : String} {s : Served} :
    (ofList entries).find? apiVersion kind = some s ↔
      ∃ before after, entries = before ++ s :: after ∧ s.IsNamed apiVersion kind ∧
        ∀ t ∈ after, ¬ t.IsNamed apiVersion kind := by
  rw [find?_ofList, List.find?_eq_some_iff_append]
  constructor
  · rintro ⟨hs, after, before, hentries, hafter⟩
    refine ⟨before.reverse, after.reverse, ?_, of_decide_eq_true hs, fun t ht => ?_⟩
    · rw [← List.reverse_reverse entries, hentries]
      simp
    · simpa using hafter t (List.mem_reverse.1 ht)
  · rintro ⟨before, after, rfl, hs, hafter⟩
    refine ⟨decide_eq_true hs, after.reverse, before.reverse, by simp, fun t ht => ?_⟩
    simpa using hafter t (List.mem_reverse.1 ht)

theorem has_ofList_iff {key : String} :
    (ofList entries).has key = true ↔
      ∃ s ∈ entries, key = s.resource.apiVersion ++ "/" ++ s.resource.plural := by
  induction entries using List.reverseRecOn with
  | nil => simp [ofList, has, empty]
  | append_singleton entries s ih =>
    rw [ofList_append, has_insert, Bool.or_eq_true, ih, beq_iff_eq]
    grind

variable (hnamed : ∀ s ∈ entries, s.resource.WellNamed)

include hnamed

/-- An entry is found under its own names unless a later one is of the same kind. -/
theorem find?_own {before after : List Served} {s : Served}
    (hentries : entries = before ++ s :: after) (hlater : ∀ t ∈ after, ¬ t.SameKind s) :
    (ofList entries).find? s.resource.apiVersion s.resource.kind = some s := by
  have hs := hnamed s (by simp [hentries])
  have hiff (t : Served) : t.IsNamed s.resource.apiVersion s.resource.kind ↔ t.SameKind s := by
    rw [hs.apiVersion]
    exact isNamed_joinApiVersion_iff hs.group hs.version
  exact find?_ofList_eq_some_iff.2
    ⟨before, after, hentries, (hiff s).2 ⟨rfl, rfl, rfl⟩, fun t ht => mt (hiff t).1 (hlater t ht)⟩

/-- A key stands for what it spells. -/
theorem has_ofList_iff_serves {key : String} :
    (ofList entries).has key = true ↔
      ∃ group version plural, readKey? key = some (group, version, plural) ∧
        Serves entries group version plural := by
  rw [has_ofList_iff]
  constructor
  · rintro ⟨s, hs, rfl⟩
    obtain ⟨happ, hgroup, hversion, hplural⟩ := hnamed s hs
    rw [happ]
    exact ⟨_, _, _, (readKey?_eq_some_iff hgroup hversion hplural).2 rfl, s, hs, rfl, rfl, rfl⟩
  · rintro ⟨_, _, _, hread, s, hs, rfl, rfl, rfl⟩
    obtain ⟨happ, hgroup, hversion, hplural⟩ := hnamed s hs
    exact ⟨s, hs, happ ▸ (readKey?_eq_some_iff hgroup hversion hplural).1 hread⟩

end Catalog

/-! ## Presence of operators -/

/-- An operator whose presence is recorded: its flag, and the kind that gives it away. -/
structure OperatorMark where
  flag : Record.CustomResources → Bool
  group : String
  version : String
  plural : String

def operatorMarks : List OperatorMark := [
  ⟨(·.hasVelero), "velero.io", "v1", "backups"⟩,
  ⟨(·.hasKciRocks), "kci.rocks", "v1alpha1", "dbinstances"⟩,
  ⟨(·.hasRabbitMq), "rabbitmq.com", "v1beta1", "rabbitmqclusters"⟩,
  ⟨(·.hasCalico), "crd.projectcalico.org", "v1", "clusterinformations"⟩,
  ⟨(·.hasContour), "projectcontour.io", "v1", "httpproxies"⟩,
  ⟨(·.hasExternalSecrets), "external-secrets.io", "v1alpha1", "secretstores"⟩,
  ⟨(·.hasCertManager), "cert-manager.io", "v1", "issuers"⟩,
  ⟨(·.hasGitopsToolkit), "source.toolkit.fluxcd.io", "v1beta2", "gitrepositories"⟩,
  ⟨(·.hasPrometheus), "monitoring.coreos.com", "v1", "prometheuses"⟩]

theorem flag_ofCatalog (c : Catalog) : ∀ m ∈ operatorMarks,
    m.flag (.ofCatalog c) = c.has (joinApiVersion m.group m.version ++ "/" ++ m.plural) := by
  simp [operatorMarks, Record.CustomResources.ofCatalog, joinApiVersion]

theorem flag_ofCatalog_iff {entries : List Served}
    (hnamed : ∀ s ∈ entries, s.resource.WellNamed) {m : OperatorMark} (hm : m ∈ operatorMarks) :
    m.flag (.ofCatalog (.ofList entries)) = true ↔ Serves entries m.group m.version m.plural := by
  have hplain : ∀ m ∈ operatorMarks,
      '/' ∉ m.group.toList ∧ '/' ∉ m.version.toList ∧ '/' ∉ m.plural.toList := by
    decide +kernel
  obtain ⟨hgroup, hversion, hplural⟩ := hplain m hm
  have hread := (readKey?_eq_some_iff hgroup hversion hplural).2 rfl
  rw [flag_ofCatalog _ m hm, Catalog.has_ofList_iff_serves hnamed]
  constructor
  · rintro ⟨group, version, plural, hread', hserves⟩
    rw [hread] at hread'
    cases hread'
    exact hserves
  · exact fun hserves => ⟨_, _, _, hread, hserves⟩

/-- What a catalog of well named entries finds.

* By group, version and kind it finds the last entry that has them. So an entry is found under its
  own names unless a later one is of the same kind.
* A key of a plural name stands where an entry, replaced or not, has the group, version and plural
  name that it spells. The flags of operators are set by this rule. -/
theorem index_of_entries {entries : List Served}
    (hnamed : ∀ s ∈ entries, s.resource.WellNamed) :
    (∀ apiVersion kind s, (Catalog.ofList entries).find? apiVersion kind = some s ↔
      ∃ before after, entries = before ++ s :: after ∧ s.IsNamed apiVersion kind ∧
        ∀ t ∈ after, ¬ t.IsNamed apiVersion kind) ∧
    (∀ apiVersion kind, (Catalog.ofList entries).find? apiVersion kind = none ↔
      ∀ s ∈ entries, ¬ s.IsNamed apiVersion kind) ∧
    (∀ before s after, entries = before ++ s :: after → (∀ t ∈ after, ¬ t.SameKind s) →
      (Catalog.ofList entries).find? s.resource.apiVersion s.resource.kind = some s) ∧
    (∀ key, (Catalog.ofList entries).has key = true ↔
      ∃ group version plural, readKey? key = some (group, version, plural) ∧
        Serves entries group version plural) ∧
    ∀ m ∈ operatorMarks, m.flag (.ofCatalog (.ofList entries)) = true ↔
      Serves entries m.group m.version m.plural := by
  refine ⟨fun apiVersion kind s => Catalog.find?_ofList_eq_some_iff, fun apiVersion kind => ?_,
    fun before s after => Catalog.find?_own hnamed,
    fun key => Catalog.has_ofList_iff_serves hnamed, fun m hm => flag_ofCatalog_iff hnamed hm⟩
  simp [Catalog.find?_ofList]

/-- Backups, listed twice under different plural names. -/
def backupsAs (plural : String) : Served :=
  { resource :=
      { group := "velero.io", version := "v1", apiVersion := "velero.io/v1", kind := "Backup"
        plural }
    namespaced := true }

/-- The later of two entries is found, and the presence of the operator shows by the earlier one. -/
theorem index_of_entries_replaced :
    let entries := [backupsAs "backups", backupsAs "snapshots"]
    (∀ s ∈ entries, s.resource.WellNamed) ∧
      (Catalog.ofList entries).find? "velero.io/v1" "Backup" = some (backupsAs "snapshots") ∧
      (Catalog.ofList entries).has "velero.io/v1/backups" = true ∧
      (Catalog.ofList entries).has "/velero.io/v1/backups" = false ∧
      (Record.CustomResources.ofCatalog (.ofList entries)).hasVelero = true := by
  intro entries
  have hnamed : ∀ s ∈ entries, s.resource.WellNamed := by
    intro s hs
    rcases List.mem_pair.1 hs with rfl | rfl <;>
      exact ⟨by decide +kernel, by decide +kernel, by decide +kernel, by decide +kernel⟩
  have hserves : Serves entries "velero.io" "v1" "backups" :=
    ⟨backupsAs "backups", .head _, rfl, rfl, rfl⟩
  have hnone : readKey? "/velero.io/v1/backups" = none := by decide +kernel
  obtain ⟨-, -, hfind, hhas, hflags⟩ := index_of_entries hnamed
  refine ⟨hnamed, ?_, (hhas _).2 ⟨_, _, _, ?_, hserves⟩, ?_, ?_⟩
  · exact hfind [backupsAs "backups"] (backupsAs "snapshots") [] rfl (List.forall_mem_nil _)
  · decide +kernel
  · rw [Bool.eq_false_iff, ne_eq, hhas]
    rintro ⟨_, _, _, hread, _⟩
    rw [hnone] at hread
    cases hread
  · exact (hflags ⟨(·.hasVelero), "velero.io", "v1", "backups"⟩ (.head _)).2 hserves

end ClusterInventory.Api
