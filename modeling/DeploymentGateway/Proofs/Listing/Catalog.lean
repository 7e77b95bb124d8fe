import DeploymentGateway.Proofs.Listing.Collection
/-!
Packages as a catalog of what is deployed. A back end makes its packages up from its objects each time they are
asked for, one for each object, so many of them share an id. A listing shows one of these, the same that a look-up
of the id finds first; and the package of a deployment is among them, as both take the id from the same source.
An object without a time of its own gives its package the time of the reading, so such a package is another one
each time it is read.
-/

set_option autoImplicit false

namespace DeploymentGateway

open Cluster Listing

/-- The answer to a look-up of an id among some packages. -/
def packageWith (packages : List Package) (id : String) : Outcome Package :=
  match packages.find? fun p => p.id == id with
  | some p => .ok p
  | none => .error (.packageNotFound id)

theorem packageWith_ok {packages : List Package} {p : Package} (mem : p ∈ packages) :
    ∃ found, packageWith packages p.id = .ok found := by
  rcases found : packages.find? fun q => q.id == p.id with _ | q
  · exact absurd (List.find?_eq_none.mp found p mem) (by simp)
  · exact ⟨q, by rw [packageWith, found]⟩

/-- Packages that a back end makes up from its objects: its listings are pages of them, and ids are looked up
among them. -/
structure Settings.Catalogs (settings : Settings) (now : Time.Instant) (memory : Memory)
    (made : List Package) : Prop where
  listPackages : ∀ filter, ((settings.operations now).listPackages filter).runInMemory now memory =
    (.ok (finishPackages made filter), memory)
  getPackage : ∀ id, ((settings.operations now).getPackage id).runInMemory now memory =
    (packageWith made id, memory)

section

variable (now : Time.Instant) (memory : Memory)

private theorem runInMemory_find (packages : List Package) (id : String) :
    (match packages.find? fun p => p.id == id with
      | some p => pure p
      | none => .fail (.packageNotFound id) : Program Package).runInMemory now memory =
      (packageWith packages id, memory) := by
  unfold packageWith
  split <;> rfl

theorem Application.catalogs (home : String) : (Settings.argocd home).Catalogs now memory
    ((memory.cluster.list kind (some home) none).filterMap (toPackage now)) where
  listPackages _ := rfl
  getPackage id := runInMemory_find now memory _ id

theorem Composite.catalogs (composite : ResourceKind) : (Settings.crossplane composite).Catalogs now memory
    ((memory.cluster.list configurationKind none none).map (toPackage now)) where
  listPackages _ := rfl
  getPackage id := by
    let configurations := memory.cluster.list configurationKind none none
    have list : OnCluster.configurations.runInMemory now memory = (.ok configurations, memory) := rfl
    have same : (configurations.map (toPackage now)).find? (fun p => p.id == id) =
        (configurations.find? fun configuration => (toPackage now configuration).id == id).map
          (toPackage now) := List.find?_map ..
    change (OnCluster.configurationById now id >>= fun configuration =>
      pure (toPackage now configuration)).runInMemory now memory = _
    rw [Program.runInMemory_bind, OnCluster.configurationById, Program.runInMemory_bind, list,
      packageWith, same]
    rcases found : configurations.find? fun configuration => (toPackage now configuration).id == id
      with _ | configuration
    · simp [found]
    · simp [found]

namespace Flux

/-- The sources of a kind that reconciled objects may name, with their addresses. -/
def urlsOf (home : String) (store : Store) (kind : ResourceKind) : List (SourceRef × String) :=
  (store.list kind (some home) none).map fun source =>
    (⟨kind.kind, namespaceOf source, nameOf source⟩, source.stringAt ["spec", "url"])

/-- The addresses of all sources. -/
def sourceUrls (home : String) (store : Store) : List (SourceRef × String) :=
  urlsOf home store gitRepositoryKind ++ urlsOf home store helmRepositoryKind

/-- The reconciled objects, with their kinds. -/
def reconciledIn (home : String) (store : Store) : List (FluxKind × Json) :=
  FluxKind.all.flatMap fun kind =>
    (store.list kind.resource (some home) none).map fun object => (kind, object)

/-- The packages of reconciled objects, with the addresses of their sources. -/
def packagesIn (home : String) (store : Store) : List Package :=
  (reconciledIn home store).map fun (kind, object) =>
    OnCluster.withUrl (sourceUrls home store) (packageOf now kind object)

theorem catalogs (home : String) : (Settings.flux home).Catalogs now memory
    (packagesIn now home memory.cluster) := by
  have list (filter : Filter) : (OnCluster.listPackages home now filter).runInMemory now memory =
      (.ok (finishPackages (packagesIn now home memory.cluster) filter), memory) := rfl
  refine ⟨list, fun id => ?_⟩
  have shown : packageWith (packagesIn now home memory.cluster) id =
      packageWith (finishPackages (packagesIn now home memory.cluster) .everything) id := by
    rw [packageWith, packageWith, find?_finishPackages]
  rw [shown]
  change (OnCluster.listPackages home now .everything >>= _).runInMemory now memory = _
  rw [Program.runInMemory_bind, list]
  exact runInMemory_find now memory _ id

end Flux

theorem Release.catalogs (binary : String) (context : Option String) :
    (Settings.helm binary context).Catalogs now memory
      ((memory.releases.list none).map (toPackage now)) where
  listPackages _ := rfl
  getPackage id := runInMemory_find now memory _ id

end

/-! Packages and their times. -/

/-- The packages that a back end makes up at an instant, each with the time that its object has of its own. -/
def Settings.made (settings : Settings) (now : Time.Instant) (memory : Memory) :
    List (Package × Option Time.Instant) :=
  match settings with
  | .argocd home => (memory.cluster.list Application.kind (some home) none).filterMap fun app =>
      (Application.toPackage now app).map fun p => (p, createdAt app)
  | .argocdRest _ _ _ _ => []
  | .crossplane _ => (memory.cluster.list Composite.configurationKind none none).map fun configuration =>
      (Composite.toPackage now configuration, createdAt configuration)
  | .flux home => (Flux.reconciledIn home memory.cluster).map fun (kind, object) =>
      (Flux.OnCluster.withUrl (Flux.sourceUrls home memory.cluster) (Flux.packageOf now kind object),
        createdAt object)
  | .helm _ _ => (memory.releases.list none).map fun revision =>
      (Release.toPackage now revision, revision.firstDeployed.or revision.lastDeployed)

/-- The time that the package of an id has of its own: that of the first object which has this package. -/
def Settings.packageTime (settings : Settings) (now : Time.Instant) (memory : Memory) (id : String) :
    Option Time.Instant :=
  ((settings.made now memory).find? fun made => made.1.id == id).bind Prod.snd

/-- A package as it is shown at an instant, by the time that it has of its own. -/
def shownAt (instant : Time.Instant) (made : Package × Option Time.Instant) :
    Package × Option Time.Instant :=
  ({ made.1 with uploadedAt := made.2.getD instant }, made.2)

private theorem Application.toPackage_shownAt (now later : Time.Instant) (app : Json) :
    ((toPackage later app).map fun p => (p, createdAt app)) =
      ((toPackage now app).map fun p => (p, createdAt app)).map (shownAt later) := by
  unfold toPackage
  dsimp only
  split <;> rfl

theorem Flux.withUrl_packageOf (urls : List (SourceRef × String)) (now : Time.Instant) (kind : FluxKind)
    (object : Json) (later : Time.Instant) :
    OnCluster.withUrl urls (packageOf later kind object) =
      { OnCluster.withUrl urls (packageOf now kind object) with
        uploadedAt := (createdAt object).getD later } := by
  have same (p : Package) (instant : Time.Instant) :
      OnCluster.withUrl urls { p with uploadedAt := instant } =
        { OnCluster.withUrl urls p with uploadedAt := instant } := by
    unfold OnCluster.withUrl
    dsimp only
    split <;> rfl
  exact same (packageOf now kind object) _

/-- At another instant only the packages without a time of their own are other ones. -/
theorem Settings.made_eq (settings : Settings) (now later : Time.Instant) (memory : Memory) :
    settings.made later memory = (settings.made now memory).map (shownAt later) := by
  cases settings with
  | argocd home =>
    simp only [made, List.map_filterMap]
    exact List.filterMap_congr fun app _ => Application.toPackage_shownAt now later app
  | argocdRest baseUrl tokenVariable home timeoutSeconds => rfl
  | crossplane composite =>
    simp only [made, List.map_map]
    rfl
  | flux home =>
    simp only [made, List.map_map]
    refine List.map_congr_left fun found _ => ?_
    simp only [Function.comp_apply, shownAt]
    rw [Flux.withUrl_packageOf _ now]
  | helm binary context =>
    simp only [made, List.map_map]
    rfl

/-! Deployments and their packages. -/

/-- A deployment is one that is made from a package of its back end: every one but composites, and
applications that do not say where their source is. -/
def Settings.HasPackage (settings : Settings) (now : Time.Instant) (memory : Memory)
    (d : Deployment) : Prop :=
  match settings with
  | .argocd home => ∃ app ∈ memory.cluster.list Application.kind (some home) none,
      Application.toDeployment now app = d ∧ (Application.Source.ofApplication app).repoUrl ≠ ""
  | .crossplane _ => False
  | _ => True

theorem Application.toPackage_of_repoUrl {now : Time.Instant} {app : Json}
    (given : (Source.ofApplication app).repoUrl ≠ "") :
    ∃ p, toPackage now app = some p ∧ p.id = (toDeployment now app).packageId := by
  rw [toPackage, if_neg (by simpa using given)]
  exact ⟨_, rfl, rfl⟩

theorem Flux.withUrl_id (urls : List (SourceRef × String)) (p : Package) :
    (OnCluster.withUrl urls p).id = p.id := by
  rw [OnCluster.withUrl]
  dsimp only
  split <;> rfl

/-- A back end shows the packages that it makes up. -/
private theorem catalogs_made {settings : Settings} (catalogued : settings.kind ≠ .argocdRest)
    (now : Time.Instant) (memory : Memory) :
    settings.Catalogs now memory ((settings.made now memory).map Prod.fst) := by
  cases settings with
  | argocd home =>
    simpa [Settings.made, List.map_filterMap, Function.comp_def] using Application.catalogs now memory home
  | crossplane composite =>
    simpa [Settings.made, Function.comp_def] using Composite.catalogs now memory composite
  | flux home =>
    simpa [Settings.made, Flux.packagesIn, Function.comp_def] using Flux.catalogs now memory home
  | helm binary context =>
    simpa [Settings.made, Function.comp_def] using Release.catalogs now memory binary context
  | argocdRest baseUrl tokenVariable home timeoutSeconds => exact absurd rfl catalogued

/-- A back end makes up the packages of the deployments that it lists. -/
private theorem exists_made {settings : Settings} (catalogued : settings.kind ≠ .argocdRest)
    (now : Time.Instant) (memory : Memory) :
    ∃ deployments, ((settings.operations now).listDeployments .everything).runInMemory now memory =
        (.ok deployments, memory) ∧
      ∀ d ∈ deployments, settings.HasPackage now memory d →
        ∃ made ∈ settings.made now memory, made.1.id = d.packageId := by
  cases settings with
  | argocd home =>
    obtain ⟨deployments, run, -⟩ :=
      (Settings.Lists.argocd home .everything).listDeployments_everything now memory
    refine ⟨deployments, run, ?_⟩
    rintro _ - ⟨app, listed, rfl, given⟩
    obtain ⟨p, made, id⟩ := Application.toPackage_of_repoUrl given
    exact ⟨(p, createdAt app), List.mem_filterMap.mpr ⟨app, listed, by rw [made]; rfl⟩, id⟩
  | crossplane composite =>
    obtain ⟨deployments, run, -⟩ :=
      (Settings.Lists.crossplane composite .everything).listDeployments_everything now memory
    exact ⟨deployments, run, fun _ _ => nofun⟩
  | flux home =>
    have lists : (Settings.flux home).Lists .everything _ := .flux home rfl
    obtain ⟨deployments, run, same⟩ := lists.listDeployments_everything now memory
    refine ⟨deployments, run, fun d mem _ => ?_⟩
    have listed := same.mem_iff.mp mem
    rw [List.flatMap_map] at listed
    obtain ⟨kind, every, mem⟩ := List.mem_flatMap.mp listed
    obtain ⟨object, found, rfl⟩ := List.mem_map.mp mem
    refine ⟨_, List.mem_map.mpr ⟨(kind, object), List.mem_flatMap.mpr ⟨kind, every, ?_⟩, rfl⟩, ?_⟩
    · exact List.mem_map_of_mem found
    · exact Flux.withUrl_id _ _
  | helm binary context =>
    refine ⟨_, rfl, fun d mem _ => ?_⟩
    rw [finishDeployments_everything, List.mem_mergeSort] at mem
    obtain ⟨revision, listed, rfl⟩ := List.mem_map.mp mem
    exact ⟨_, List.mem_map_of_mem listed, rfl⟩
  | argocdRest baseUrl tokenVariable home timeoutSeconds => exact absurd rfl catalogued

/-- What a look-up gives at another instant differs from what it gives now in the time of the package only. -/
private theorem packageWith_made (settings : Settings) (now later : Time.Instant) (memory : Memory)
    (id : String) :
    packageWith ((settings.made later memory).map Prod.fst) id =
      (packageWith ((settings.made now memory).map Prod.fst) id).map fun p =>
        { p with uploadedAt := (settings.packageTime now memory id).getD later } := by
  let found := (settings.made now memory).find? fun made => made.1.id == id
  have here : ((settings.made now memory).map Prod.fst).find? (fun p => p.id == id) = found.map Prod.fst :=
    List.find?_map ..
  have there : ((settings.made now memory).map (Prod.fst ∘ shownAt later)).find? (fun p => p.id == id) =
      found.map (Prod.fst ∘ shownAt later) :=
    List.find?_map ..
  have time : settings.packageTime now memory id = found.bind Prod.snd := rfl
  rw [settings.made_eq now later, List.map_map, packageWith, packageWith, here, there, time]
  clear_value found
  cases found <;> rfl

/-- What a back end lists at an instant is a catalog: packages in the order of their ids, each id once, in which
the packages of the deployments are found. -/
structure Settings.Resolves (settings : Settings) (now : Time.Instant) (memory : Memory)
    (packages : List Package) (deployments : List Deployment) : Prop where
  listPackages : ((settings.operations now).listPackages .everything).runInMemory now memory =
    (.ok packages, memory)
  listDeployments : ((settings.operations now).listDeployments .everything).runInMemory now memory =
    (.ok deployments, memory)
  increasing : packages.Pairwise fun p q => p.id < q.id
  /-- To ask for an id gives the listed package with it, or fails if there is none: at the same instant, and at
  every other one if the package has a time of its own. -/
  same : ∀ id later, later = now ∨ (settings.packageTime now memory id).isSome →
    ((settings.operations later).getPackage id).runInMemory later memory =
      (match packages.find? fun p => p.id == id with
        | some p => .ok p
        | none => .error (.packageNotFound id), memory)
  /-- A package without one is shown with the time of the reading. -/
  undated : ∀ id later, settings.packageTime now memory id = none →
    ((settings.operations later).getPackage id).runInMemory later memory =
      (match packages.find? fun p => p.id == id with
        | some p => .ok { p with uploadedAt := later }
        | none => .error (.packageNotFound id), memory)
  sources : ∀ d ∈ deployments, settings.HasPackage now memory d → ∀ later,
    ∃ p, ((settings.operations later).getPackage d.packageId).runInMemory later memory = (.ok p, memory)

/-- The packages and deployments of every back end with a catalog refer to each other, whenever they are read. -/
theorem getPackage_eq_find {settings : Settings} (catalogued : settings.kind ≠ .argocdRest)
    (now : Time.Instant) (memory : Memory) :
    ∃ packages deployments, settings.Resolves now memory packages deployments := by
  obtain ⟨deployments, run, has⟩ := exists_made catalogued now memory
  let made := (settings.made now memory).map Prod.fst
  have catalogs := catalogs_made catalogued now memory
  have listed (id : String) : packageWith (finishPackages made .everything) id = packageWith made id := by
    rw [packageWith, packageWith, find?_finishPackages]
  -- What has a time is shown with it now and later, so the same package comes of both readings.
  have read (id : String) (later : Time.Instant) :
      ((settings.operations later).getPackage id).runInMemory later memory =
        ((packageWith made id).map fun p =>
          { p with uploadedAt := (settings.packageTime now memory id).getD later }, memory) := by
    rw [(catalogs_made catalogued later memory).getPackage, packageWith_made settings now later]
  have readNow (id : String) : ((packageWith made id).map fun p =>
      { p with uploadedAt := (settings.packageTime now memory id).getD now }) = packageWith made id :=
    (packageWith_made settings now now memory id).symm
  refine ⟨finishPackages made .everything, deployments, ?_⟩
  constructor
  case listPackages => exact catalogs.listPackages .everything
  case listDeployments => exact run
  case increasing => exact finishPackages_increasing made
  case same =>
    intro id later dated
    have time : (settings.packageTime now memory id).getD later =
        (settings.packageTime now memory id).getD now := by
      rcases dated with rfl | dated
      · rfl
      · obtain ⟨time, own⟩ := Option.isSome_iff_exists.mp dated
        rw [own]
        rfl
    rw [read, time, readNow, ← listed]
    rfl
  case undated =>
    intro id later undated
    rw [read, undated, ← listed, packageWith]
    split <;> rfl
  case sources =>
    intro d mem sourced later
    obtain ⟨package, mem_made, id⟩ := has d mem sourced
    have shown : package.1 ∈ made := List.mem_map.mpr ⟨package, mem_made, rfl⟩
    obtain ⟨found, answer⟩ := packageWith_ok shown
    rw [id] at answer
    exact ⟨_, (read d.packageId later).trans (by rw [answer]; rfl)⟩

/-- An application of a name, in a version of one source. -/
def sharingApplication (name targetRevision : String) : Json :=
  .ofPairs [
    ("metadata", .ofPairs [("name", .string name), ("namespace", .string "argocd")]),
    ("spec", .ofPairs [("source", .ofPairs [
      ("repoURL", .string "https://git.example.com/apps.git"), ("path", .string "web"),
      ("targetRevision", .string targetRevision)])])]

/-- A cluster with two applications that share the id of their package. -/
def sharingMemory : Memory where
  cluster := (Store.empty.seed Application.kind (sharingApplication "web" "v2")).seed
    Application.kind (sharingApplication "api" "v1")
  releases := .empty

theorem getPackage_eq_find_sharing :
    (Settings.argocd "argocd").kind ≠ .argocdRest ∧
    ∃ packages deployments,
      (Settings.argocd "argocd").Resolves ⟨1, 0⟩ sharingMemory packages deployments := by
  have catalogued : (Settings.argocd "argocd").kind ≠ .argocdRest := by decide
  exact ⟨catalogued, getPackage_eq_find catalogued ⟨1, 0⟩ sharingMemory⟩

/-- A revision of which it is not known when it was deployed. -/
def undatedRevision : Release.ReleaseRevision where
  name := "web"
  «namespace» := "prod"
  revision := 1
  chart := "nginx"
  chartVersion := "1.0.0"
  appVersion := ""
  status := .deployed
  firstDeployed := none
  lastDeployed := none
  description := ""
  config := .empty

/-- A release manager with one release, of that revision. -/
def undatedMemory : Memory where
  cluster := .empty
  releases := Release.Store.empty.seed [undatedRevision]

/-- A package without a time of its own is listed at the end of one year and read on the second day of the next:
the two are not the same. -/
theorem getPackage_ne_listed_of_undated :
    ∃ listed read : Package,
      (((Settings.helm "helm" none).operations ⟨1893455999, 0⟩).listPackages .everything).runInMemory
        ⟨1893455999, 0⟩ undatedMemory = (.ok [listed], undatedMemory) ∧
      (((Settings.helm "helm" none).operations ⟨1893553445, 0⟩).getPackage listed.id).runInMemory
        ⟨1893553445, 0⟩ undatedMemory = (.ok read, undatedMemory) ∧
      read ≠ listed := by
  have releases : undatedMemory.releases.list none = [undatedRevision] := rfl
  have listed := (Release.catalogs ⟨1893455999, 0⟩ undatedMemory "helm" none).listPackages .everything
  have read := (Release.catalogs ⟨1893553445, 0⟩ undatedMemory "helm" none).getPackage
    (Release.toPackage ⟨1893455999, 0⟩ undatedRevision).id
  have sole (p : Package) : finishPackages [p] .everything = [p] := by
    rw [finishPackages, List.mergeSort_singleton, dropRepeated]
    rfl
  rw [releases] at listed read
  rw [List.map_singleton, sole] at listed
  refine ⟨Release.toPackage ⟨1893455999, 0⟩ undatedRevision, Release.toPackage ⟨1893553445, 0⟩ undatedRevision,
    listed, read.trans ?_, fun same => ?_⟩
  · rw [packageWith, List.map_singleton, List.find?_singleton]
    simp [Release.toPackage]
  · have times := congrArg Package.uploadedAt same
    exact absurd times (by decide)

end DeploymentGateway
