import DeploymentGateway.Bootstrap
import DeploymentGateway.Proofs.Rules
import DeploymentGateway.Proofs.Sorted
import Mathlib.Data.List.Forall2
/-!
Which configurations are accepted, and that the gateway then has an adapter for each of their tables. A
registry keeps the last adapter of a name only, so none is lost because no two tables of an accepted
configuration have the same name.
-/

set_option autoImplicit false

namespace DeploymentGateway

open Rules

namespace Configuration

/-! Accepting a configuration. -/

/-- The address begins as an address of HTTP does. -/
def IsHttp (address : String) : Prop :=
  "http://".toList <+: address.toList ∨ "https://".toList <+: address.toList

/-- A table has the address of its server, if it names one, at HTTP. -/
def IsReachable (table : AdapterTable) : Prop :=
  ∀ baseUrl token home timeout, table.settings = .argocdRest baseUrl token home timeout → IsHttp baseUrl

/-- Tables with proper names, no two of them with the same, and with proper addresses. -/
structure Acceptable (tables : List AdapterTable) : Prop where
  named : ∀ table ∈ tables, IsName table.name
  distinct : (tables.map AdapterTable.name).Nodup
  reachable : ∀ table ∈ tables, IsReachable table

/-- What is wrong with a table first, after tables that have taken some names. -/
inductive Offends (taken : List String) (table : AdapterTable) : ConfigurationError → Prop where
  | name {failure : Failure} (bad : ¬ IsName table.name)
      (told : checkName "adapters.name" table.name = .error failure) :
      Offends taken table (.invalidName failure)
  | repeated (named : IsName table.name) (again : table.name ∈ taken) :
      Offends taken table (.repeatedName table.name)
  | address (named : IsName table.name) (fresh : table.name ∉ taken) (bad : ¬ IsReachable table) :
      Offends taken table (.badAddress table.name)

theorem isHttpAddress_iff {address : String} : isHttpAddress address = true ↔ IsHttp address := by
  simp [isHttpAddress, IsHttp, Text.startsWith]

/-- What the check of a table says. -/
private inductive Verdict (taken : List String) (table : AdapterTable) : Except ConfigurationError Unit → Prop where
  | accepted (named : IsName table.name) (fresh : table.name ∉ taken) (reachable : IsReachable table) :
      Verdict taken table (.ok ())
  | refused {error : ConfigurationError} (offends : Offends taken table error) :
      Verdict taken table (.error error)

private theorem checkAdapter_verdict (taken : List String) (table : AdapterTable) :
    Verdict taken table (checkAdapter taken table) := by
  unfold checkAdapter
  split
  · rename_i failure told
    refine .refused (.name (fun named => ?_) told)
    rw [checkName_ok_iff.mpr named] at told
    cases told
  · rename_i told
    have named := checkName_ok_iff.mp told
    split
    · rename_i again
      exact .refused (.repeated named (by simpa using again))
    · rename_i notAgain
      have fresh : table.name ∉ taken := by simpa using notAgain
      split
      · rename_i baseUrl token home timeout settings
        split
        · rename_i http
          refine .accepted named fresh fun baseUrl' _ _ _ settings' => ?_
          cases settings.symm.trans settings'
          exact isHttpAddress_iff.mp http
        · rename_i notHttp
          refine .refused (.address named fresh fun reachable => notHttp ?_)
          exact isHttpAddress_iff.mpr (reachable _ _ _ _ settings)
      · rename_i other
        exact .accepted named fresh fun _ _ _ _ settings => absurd settings (other _ _ _ _)

private theorem Offends.not_accepted {taken : List String} {table : AdapterTable} {error : ConfigurationError}
    (offends : Offends taken table error) (named : IsName table.name) (fresh : table.name ∉ taken) :
    ¬ IsReachable table := by
  cases offends with
  | name bad told => exact absurd named bad
  | repeated _ again => exact absurd again fresh
  | address _ _ bad => exact bad

/-- At most one thing is wrong with a table first. -/
theorem Offends.unique {taken : List String} {table : AdapterTable} {error other : ConfigurationError}
    (offends : Offends taken table error) (also : Offends taken table other) : error = other := by
  cases offends with
  | name bad told =>
    cases also with
    | name _ told' =>
      rw [told] at told'
      cases told'
      rfl
    | repeated named _ | address named _ _ => exact absurd named bad
  | repeated named again =>
    cases also with
    | name bad _ => exact absurd named bad
    | repeated _ _ => rfl
    | address _ fresh _ => exact absurd again fresh
  | address named fresh _ =>
    cases also with
    | name bad _ => exact absurd named bad
    | repeated _ again => exact absurd again fresh
    | address _ _ _ => rfl

theorem checkAdapter_ok_iff {taken : List String} {table : AdapterTable} :
    checkAdapter taken table = .ok () ↔
      IsName table.name ∧ table.name ∉ taken ∧ IsReachable table := by
  have verdict := checkAdapter_verdict taken table
  constructor
  · intro ok
    rw [ok] at verdict
    cases verdict with
    | accepted named fresh reachable => exact ⟨named, fresh, reachable⟩
  · rintro ⟨named, fresh, reachable⟩
    generalize checkAdapter taken table = outcome at verdict ⊢
    cases verdict with
    | accepted _ _ _ => rfl
    | refused offends => exact absurd reachable (offends.not_accepted named fresh)

theorem checkAdapter_error_iff {taken : List String} {table : AdapterTable} {error : ConfigurationError} :
    checkAdapter taken table = .error error ↔ Offends taken table error := by
  have verdict := checkAdapter_verdict taken table
  constructor
  · intro failed
    rw [failed] at verdict
    cases verdict with
    | refused offends => exact offends
  · intro offends
    generalize checkAdapter taken table = outcome at verdict ⊢
    cases verdict with
    | accepted named fresh reachable => exact absurd reachable (offends.not_accepted named fresh)
    | refused offends' => rw [offends.unique offends']

private theorem acceptable_cons_iff {table : AdapterTable} {rest : List AdapterTable} :
    Acceptable (table :: rest) ↔
      (IsName table.name ∧ IsReachable table) ∧
        Acceptable rest ∧ ∀ other ∈ rest, other.name ≠ table.name := by
  constructor
  · rintro ⟨named, distinct, reachable⟩
    obtain ⟨fresh, later⟩ := List.nodup_cons.mp distinct
    refine ⟨⟨named _ List.mem_cons_self, reachable _ List.mem_cons_self⟩, ⟨?_, later, ?_⟩, ?_⟩
    · exact fun other mem => named other (List.mem_cons_of_mem _ mem)
    · exact fun other mem => reachable other (List.mem_cons_of_mem _ mem)
    · exact fun other mem same => fresh (same ▸ List.mem_map_of_mem mem)
  · rintro ⟨⟨named, reachable⟩, rest, fresh⟩
    refine ⟨List.forall_mem_cons.mpr ⟨named, rest.named⟩, List.nodup_cons.mpr ⟨?_, rest.distinct⟩,
      List.forall_mem_cons.mpr ⟨reachable, rest.reachable⟩⟩
    intro again
    obtain ⟨other, mem, same⟩ := List.mem_map.mp again
    exact fresh other mem same

theorem checkAdapters_ok_iff {taken : List String} {tables : List AdapterTable} :
    checkAdapters taken tables = .ok () ↔
      Acceptable tables ∧ ∀ table ∈ tables, table.name ∉ taken := by
  induction tables generalizing taken with
  | nil => exact iff_of_true rfl ⟨⟨nofun, List.nodup_nil, nofun⟩, nofun⟩
  | cons table rest ih =>
    have both : checkAdapters taken (table :: rest) = .ok () ↔
        checkAdapter taken table = .ok () ∧ checkAdapters (table.name :: taken) rest = .ok () := by
      rw [checkAdapters]
      rcases checkAdapter taken table with error | ⟨⟩
      · simp [bind, Except.bind]
      · exact ⟨fun run => ⟨rfl, run⟩, fun run => run.2⟩
    rw [both, checkAdapter_ok_iff, ih, acceptable_cons_iff, List.forall_mem_cons]
    simp only [List.mem_cons, not_or, forall_and]
    tauto

private theorem checkAdapters_append (taken : List String) (earlier later : List AdapterTable) :
    checkAdapters taken (earlier ++ later) = (do
      checkAdapters taken earlier
      checkAdapters ((earlier.map AdapterTable.name).reverse ++ taken) later) := by
  induction earlier generalizing taken with
  | nil => rfl
  | cons table rest ih =>
    simp [checkAdapters, ih]

private theorem checkAdapters_error_iff {taken : List String} {tables : List AdapterTable}
    {error : ConfigurationError} :
    checkAdapters taken tables = .error error ↔ ∃ earlier table later,
      tables = earlier ++ table :: later ∧ checkAdapters taken earlier = .ok () ∧
        Offends ((earlier.map AdapterTable.name).reverse ++ taken) table error := by
  constructor
  · intro failed
    induction tables generalizing taken with
    | nil => cases failed
    | cons table rest ih =>
      rcases here : checkAdapter taken table with fault | ⟨⟩
      · refine ⟨[], table, rest, rfl, rfl, checkAdapter_error_iff.mp ?_⟩
        rw [checkAdapters, here] at failed
        cases failed
        exact here
      · rw [checkAdapters, here] at failed
        obtain ⟨earlier, offender, later, rfl, passed, offends⟩ := ih failed
        refine ⟨table :: earlier, offender, later, rfl, ?_, ?_⟩
        · rw [checkAdapters, here]
          exact passed
        · simpa using offends
  · rintro ⟨earlier, offender, later, rfl, passed, offends⟩
    rw [checkAdapters_append, passed, ← checkAdapter_error_iff] at *
    simp [bind, Except.bind, checkAdapters, offends]

/-- Only which names are taken matters, not in which order. -/
private theorem Offends.mono {taken other : List String} {table : AdapterTable} {error : ConfigurationError}
    (offends : Offends taken table error) (same : ∀ name, name ∈ taken ↔ name ∈ other) :
    Offends other table error := by
  cases offends with
  | name bad told => exact .name bad told
  | repeated named again => exact .repeated named ((same _).mp again)
  | address named fresh bad => exact .address named (fun again => fresh ((same _).mpr again)) bad

/-! The adapters of a configuration. -/

/-- The variable for the token of an adapter is set, if its table names one. -/
def HasToken (environment : Environment) (table : AdapterTable) : Prop :=
  ∀ baseUrl token home timeout, table.settings = .argocdRest baseUrl token home timeout →
    (environment token).isSome

end Configuration

/-- An adapter is the one that a table asks for. -/
structure AdapterTable.Describes (table : AdapterTable) (adapter : Adapter) : Prop where
  name : adapter.name = table.name
  kind : adapter.kind = table.settings.kind
  capabilities : adapter.capabilities = table.settings.capabilities
  operations : adapter.operations = table.settings.operations

theorem AdapterTable.describes_of_build {environment : Environment} {table : AdapterTable}
    {adapter : Adapter} (built : table.build environment = .ok adapter) : table.Describes adapter := by
  obtain ⟨name, settings⟩ := table
  cases settings with
  | argocdRest baseUrl tokenVariable home timeoutSeconds =>
    simp only [build] at built
    split at built
    · cases built
      exact ⟨rfl, rfl, rfl, rfl⟩
    · cases built
  | argocd _ | crossplane _ | flux _ | helm _ _ =>
    cases built
    exact ⟨rfl, rfl, rfl, rfl⟩

theorem AdapterTable.exists_build {environment : Environment} {table : AdapterTable}
    (token : Configuration.HasToken environment table) :
    ∃ adapter, table.build environment = .ok adapter := by
  obtain ⟨name, settings⟩ := table
  cases settings with
  | argocdRest baseUrl tokenVariable home timeoutSeconds =>
    obtain ⟨value, set⟩ := Option.isSome_iff_exists.mp (token _ _ _ _ rfl)
    exact ⟨.argocdRest name baseUrl value home timeoutSeconds, by simp only [build, set]⟩
  | argocd _ | crossplane _ | flux _ | helm _ _ => exact ⟨_, rfl⟩

/-- One adapter is built for each table and registered after those before it. -/
private theorem foldlM_register {environment : Environment} {tables : List AdapterTable}
    (tokens : ∀ table ∈ tables, Configuration.HasToken environment table) (registry : Registry) :
    ∃ adapters, List.Forall₂ AdapterTable.Describes tables adapters ∧
      tables.foldlM (fun registry table => do return registry.register (← table.build environment)) registry =
        .ok (adapters.foldl Registry.register registry) := by
  induction tables generalizing registry with
  | nil => exact ⟨[], .nil, rfl⟩
  | cons table rest ih =>
    obtain ⟨first, later⟩ := List.forall_mem_cons.mp tokens
    obtain ⟨adapter, built⟩ := AdapterTable.exists_build first
    obtain ⟨adapters, described, run⟩ := ih later (registry.register adapter)
    refine ⟨adapter :: adapters, .cons (AdapterTable.describes_of_build built) described, ?_⟩
    rw [List.foldlM_cons, built]
    exact run

/-- A registry has one adapter for each of some tables and no others, each under the name of its table and
of its kind, in the order of the names. -/
structure Registry.Holds (registry : Registry) (tables : List AdapterTable) : Prop where
  size : registry.size = tables.length
  found : ∀ table ∈ tables, ∃ adapter, registry.get? table.name = some adapter ∧ table.Describes adapter
  others : ∀ name, (∀ table ∈ tables, table.name ≠ name) → registry.get? name = none
  once : ∃ adapters, registry.values.Perm adapters ∧ List.Forall₂ AdapterTable.Describes tables adapters
  increasing : registry.values.Pairwise fun a b => a.name < b.name

private theorem names_of_describes {tables : List AdapterTable} {adapters : List Adapter}
    (described : List.Forall₂ AdapterTable.Describes tables adapters) :
    adapters.map Adapter.name = tables.map AdapterTable.name := by
  induction described with
  | nil => rfl
  | cons here _ ih => rw [List.map_cons, List.map_cons, here.name, ih]

private theorem exists_mem_of_describes {tables : List AdapterTable} {adapters : List Adapter}
    (described : List.Forall₂ AdapterTable.Describes tables adapters) {table : AdapterTable}
    (mem : table ∈ tables) : ∃ adapter ∈ adapters, table.Describes adapter := by
  induction described with
  | nil => cases mem
  | cons here _ ih =>
    rcases List.mem_cons.mp mem with rfl | later
    · exact ⟨_, List.mem_cons_self, here⟩
    · obtain ⟨adapter, mem, describes⟩ := ih later
      exact ⟨adapter, List.mem_cons_of_mem _ mem, describes⟩

private theorem ofAdapters_eq_ofList (adapters : List Adapter) :
    Registry.ofAdapters adapters = .ofList (adapters.map fun adapter => (adapter.name, adapter)) := by
  rw [SortedMap.ofList, List.foldl_map]
  rfl

theorem Registry.holds_ofAdapters {tables : List AdapterTable} {adapters : List Adapter}
    (described : List.Forall₂ AdapterTable.Describes tables adapters)
    (distinct : (tables.map AdapterTable.name).Nodup) : Registry.Holds (.ofAdapters adapters) tables := by
  have names := names_of_describes described
  have keys : ((adapters.map fun adapter => (adapter.name, adapter)).map Prod.fst).Nodup := by
    rw [← names] at distinct
    simpa [Function.comp_def] using distinct
  have entries := SortedMap.toList_ofList_perm keys
  rw [← ofAdapters_eq_ofList] at entries
  have found {name : String} {adapter : Adapter} :
      (Registry.ofAdapters adapters).get? name = some adapter ↔ adapter ∈ adapters ∧ adapter.name = name := by
    rw [ofAdapters_eq_ofList, SortedMap.get?_ofList_eq_some_iff keys]
    simp only [List.mem_map, Prod.mk.injEq]
    constructor
    · rintro ⟨other, mem, same, rfl⟩
      exact ⟨mem, same⟩
    · rintro ⟨mem, same⟩
      exact ⟨adapter, mem, same, rfl⟩
  constructor
  case size =>
    rw [described.length_eq]
    simpa [SortedMap.size] using entries.length_eq
  case found =>
    intro table mem
    obtain ⟨adapter, mem, describes⟩ := exists_mem_of_describes described mem
    exact ⟨adapter, found.mpr ⟨mem, describes.name⟩, describes⟩
  case others =>
    intro name unused
    rw [Option.eq_none_iff_forall_ne_some]
    intro adapter stored
    obtain ⟨mem, same⟩ := found.mp stored
    have named : name ∈ tables.map AdapterTable.name := names ▸ same ▸ List.mem_map_of_mem mem
    obtain ⟨table, mem, own⟩ := List.mem_map.mp named
    exact unused table mem own
  case once =>
    refine ⟨adapters, ?_, described⟩
    simpa [SortedMap.values, Function.comp_def] using entries.map Prod.snd
  case increasing =>
    refine List.pairwise_map.mpr ((Registry.ofAdapters adapters).sorted.imp_of_mem fun memA memB before => ?_)
    have own {entry : String × Adapter} (mem : entry ∈ (Registry.ofAdapters adapters).toList) :
        entry.2.name = entry.1 :=
      (found.mp (SortedMap.mem_toList_iff.mp mem)).2
    rw [own memA, own memB]
    exact OrderedKey.before_string_iff.mp before

namespace Configuration

/-- A configuration is accepted just if its tables are acceptable, and is refused for what is wrong with the
first table that is not. Where it is accepted and all tokens are there, each table has its adapter, of the
kind that it asks for. -/
theorem check_and_registry (config : Configuration) :
    (config.check = .ok () ↔ Acceptable config.adapters) ∧
      (∀ error, config.check = .error error ↔ ∃ earlier table later,
        config.adapters = earlier ++ table :: later ∧ Acceptable earlier ∧
          Offends (earlier.map AdapterTable.name) table error) ∧
      ∀ environment, config.check = .ok () → (∀ table ∈ config.adapters, HasToken environment table) →
        ∃ registry, config.registry environment = .ok registry ∧
          Registry.Holds registry config.adapters := by
  have accepted (tables : List AdapterTable) : checkAdapters [] tables = .ok () ↔ Acceptable tables := by
    simp [checkAdapters_ok_iff]
  refine ⟨accepted config.adapters, fun error => ?_, fun environment checked tokens => ?_⟩
  · rw [check, checkAdapters_error_iff]
    refine exists_congr fun earlier => exists_congr fun table => exists_congr fun later => ?_
    rw [accepted earlier]
    refine and_congr_right fun _ => and_congr_right fun _ => ?_
    exact ⟨fun offends => offends.mono (by simp), fun offends => offends.mono (by simp)⟩
  · obtain ⟨adapters, described, built⟩ := foldlM_register tokens .empty
    exact ⟨_, built, Registry.holds_ofAdapters described ((accepted _).mp checked).distinct⟩

/-- Two adapters are both found, each of its own kind, and no third. A third table of a name that is taken is
refused, although its address would be refused as well. -/
theorem check_and_registry_two :
    let inside : AdapterTable := ⟨"west", .argocd "argocd"⟩
    let outside : AdapterTable := ⟨"east", .argocdRest "https://argocd.example.com" "TOKEN" "argocd" 30⟩
    let again : AdapterTable := ⟨"west", .argocdRest "ftp://argocd.example.com" "TOKEN" "argocd" 30⟩
    let environment : Environment := fun name => if name = "TOKEN" then some "secret" else none
    (∃ registry, (⟨"", 0, [inside, outside]⟩ : Configuration).registry environment = .ok registry ∧
        (registry.get? "west").map Adapter.kind = some .argocd ∧
        (registry.get? "east").map Adapter.kind = some .argocdRest ∧
        registry.get? "north" = none ∧ registry.size = 2) ∧
      (⟨"", 0, [inside, outside, again]⟩ : Configuration).check = .error (.repeatedName "west") := by
  intro inside outside again environment
  have west : IsName "west" := checkName_ok_iff.mp (show checkName "adapters.name" _ = .ok () from rfl)
  have east : IsName "east" := checkName_ok_iff.mp (show checkName "adapters.name" _ = .ok () from rfl)
  have http : IsReachable outside := by
    intro baseUrl token home timeout settings
    cases settings
    exact isHttpAddress_iff.mp rfl
  have acceptable : Acceptable [inside, outside] :=
    ⟨List.forall_mem_cons.mpr ⟨west, List.forall_mem_singleton.mpr east⟩, by decide,
      List.forall_mem_cons.mpr ⟨nofun, List.forall_mem_singleton.mpr http⟩⟩
  constructor
  · obtain ⟨accepted, -, held⟩ := check_and_registry ⟨"", 0, [inside, outside]⟩
    have tokens : ∀ table ∈ [inside, outside], HasToken environment table := by
      refine List.forall_mem_cons.mpr ⟨nofun, List.forall_mem_singleton.mpr ?_⟩
      intro baseUrl token home timeout settings
      cases settings
      rfl
    obtain ⟨registry, built, holds⟩ := held environment (accepted.mpr acceptable) tokens
    obtain ⟨first, foundFirst, describesFirst⟩ := holds.found inside (by simp)
    obtain ⟨second, foundSecond, describesSecond⟩ := holds.found outside (by simp)
    refine ⟨registry, built, ?_, ?_, holds.others "north" (by simp [inside, outside]), holds.size⟩
    · rw [foundFirst, Option.map_some, describesFirst.kind]
      rfl
    · rw [foundSecond, Option.map_some, describesSecond.kind]
      rfl
  · obtain ⟨-, refused, -⟩ := check_and_registry ⟨"", 0, [inside, outside, again]⟩
    exact (refused _).mpr ⟨[inside, outside], again, [], rfl, acceptable, .repeated west (by decide)⟩

end Configuration

end DeploymentGateway
