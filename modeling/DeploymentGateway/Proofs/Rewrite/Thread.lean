import DeploymentGateway.Proofs.Cluster.Succession
import DeploymentGateway.Proofs.Rewrite.Search
/-!
A search among other callers of the cluster. Between two of its calls others may change the store, so
what is known of it is how far it has come; one law tells all that its next call can do.
-/

set_option autoImplicit false

namespace DeploymentGateway

open Cluster

namespace Program

variable {α : Type}

/-- A program after its next call, and the memory that the call leaves. -/
def advance (now : Time.Instant) (waits : Bool) : Program α → Memory → Program α × Memory
  | done outcome, memory => (done outcome, memory)
  | call c next, memory => (next (memory.answerTo now waits c).1, (memory.answerTo now waits c).2)

/-- To run a program in memory is to let it make one call after the other. -/
theorem runInMemory_advance (now : Time.Instant) (program : Program α) (memory : Memory) :
    (program.advance now true memory).1.runInMemory now (program.advance now true memory).2 =
      program.runInMemory now memory := by
  cases program with
  | done outcome => rfl
  | call c next => cases c <;> rfl

/-- The next call of a program is an update. -/
def updates : Program α → Bool
  | call (.update _ _ _) _ => true
  | _ => false

/-- The next call of a program finds the object under a key. -/
def reads (target : ObjectKey) (store : Store) : Program α → Bool
  | call (.get kind «namespace» name) _ =>
    decide (Store.key kind «namespace» name = target) && (store.get kind «namespace» name).isOk
  | _ => false

/-- The next call of a program replaces the object under a key. -/
def commits (target : ObjectKey) (store : Store) : Program α → Bool
  | call (.update kind «namespace» object) _ =>
    decide (Store.key kind «namespace» (nameOf object) = target) &&
      (store.update kind «namespace» object).1.isOk
  | _ => false

end Program

/-- The object that is found at a place is rewritten there, and keeps its identity. -/
def Place.Rewrites (place : Place) : Prop :=
  ∃ (rewrite : Rewrite) (name : String),
    place = rewrite.place name ∧ name ≠ "" ∧ Edits rewrite.change

namespace Rewrite

/-- What there is to write, once an object with a number was read at a place. -/
structure Ready (store : Store) (rewrite : Rewrite) (name : String) (n : Nat)
    (object changed : Json) : Prop where
  held : Store.Held store (rewrite.place name).key object n
  run : rewrite.change object = .ok changed

/-- How far a rewrite can be that has read an object with a number. -/
inductive Underway (store : Store) (rewrite : Rewrite) (name : String) (n : Nat) :
    Program Deployment → Prop where
  | connecting {object changed : Json} (ready : rewrite.Ready store name n object changed) :
    Underway store rewrite name n (.connect .cluster >>= fun _ => rewrite.write changed)
  | writing {object changed : Json} (ready : rewrite.Ready store name n object changed) :
    Underway store rewrite name n (rewrite.write changed)
  | ended (outcome : Outcome Deployment) : Underway store rewrite name n (.done outcome)

variable {rewrite : Rewrite} {name : String} {n : Nat} {object changed : Json}
  {target : ObjectKey} {store after : Store} {program : Program Deployment}

theorem Ready.follows (ready : rewrite.Ready store name n object changed)
    (h : Store.Follows target store after) : rewrite.Ready after name n object changed :=
  ⟨ready.held.follows h, ready.run⟩

theorem Underway.follows (underway : rewrite.Underway store name n program)
    (h : Store.Follows target store after) : rewrite.Underway after name n program := by
  cases underway with
  | connecting ready => exact .connecting (ready.follows h)
  | writing ready => exact .writing (ready.follows h)
  | ended outcome => exact .ended outcome

theorem underway_program (held : Store.Held store (rewrite.place name).key object n) :
    rewrite.Underway store name n (rewrite.program object) := by
  rcases run : rewrite.change object with failure | changed
  · have failed : rewrite.program object = .done (.error failure) := by
      simp only [Rewrite.program, run]
      rfl
    rw [failed]
    exact .ended _
  · have goes : rewrite.program object =
        (Program.connect .cluster >>= fun _ => rewrite.write changed) := by
      simp only [Rewrite.program, run]
      rfl
    rw [goes]
    exact .connecting ⟨held, run⟩

theorem program_ne_done (rewrite : Rewrite) (object : Json) (deployment : Deployment) :
    rewrite.program object ≠ .done (.ok deployment) := by
  intro ended
  rcases run : rewrite.change object with failure | changed
  · simp [Rewrite.program, run] at ended
  · simp [Rewrite.program, run] at ended

theorem advance_write (now : Time.Instant) (waits : Bool) (changed : Json) (memory : Memory) :
    (rewrite.write changed).advance now waits memory =
      match memory.cluster.update rewrite.kind rewrite.namespace changed with
      | (.ok updated, cluster) =>
        (.done (.ok (rewrite.result updated)), { memory with cluster })
      | (.error error, cluster) =>
        (.done (.error (rewrite.failure changed error)), { memory with cluster }) := by
  change (_, _) = _
  simp only [Memory.answerTo_update, Memory.answer, Memory.withCluster]
  rcases memory.cluster.update rewrite.kind rewrite.namespace changed with ⟨_ | _, cluster⟩ <;> rfl

theorem Underway.advance {memory : Memory} (now : Time.Instant) (waits : Bool)
    (underway : rewrite.Underway memory.cluster name n program)
    (h : Store.Follows target memory.cluster (program.advance now waits memory).2.cluster) :
    rewrite.Underway (program.advance now waits memory).2.cluster name n
      (program.advance now waits memory).1 := by
  cases underway with
  | connecting ready =>
    cases waits with
    | false => exact .ended _
    | true => exact .writing ready
  | @writing object changed ready =>
    rw [advance_write]
    rcases memory.cluster.update rewrite.kind rewrite.namespace changed with ⟨_ | _, cluster⟩
    · exact .ended _
    · exact .ended _
  | ended outcome => exact .ended outcome

section

variable (edits : Edits rewrite.change) (nonempty : name ≠ "")
  (ready : rewrite.Ready store name n object changed)

include edits ready

theorem Ready.stamped : Stamped changed n :=
  edits.stamped_of_ok ready.held.stamped ready.run

include nonempty

theorem Ready.named : nameOf changed = name := by
  have named : nameOf object = name := ready.held.named
  rw [edits.named object changed ready.run (named ▸ nonempty), named]

theorem Ready.named_succeeding (current : Json) :
    nameOf (Store.succeeding current changed) = name :=
  nameOf_set (ready.named edits nonempty) nonempty (by simp) _

end

/-- The write of an object that is gone fails, and changes nothing. -/
theorem advance_write_of_gone (now : Time.Instant) (waits : Bool) {memory : Memory}
    (edits : Edits rewrite.change) (nonempty : name ≠ "")
    (ready : rewrite.Ready memory.cluster name n object changed)
    (gone : Store.Gone memory.cluster (rewrite.place name).key n)
    (sound : Store.Sound memory.cluster) :
    ∃ failure, (rewrite.write changed).advance now waits memory =
      (.done (.error failure), memory) := by
  have refused : ∃ error, memory.cluster.update rewrite.kind rewrite.namespace changed =
      (.error error, memory.cluster) :=
    gone.update_refused ready.held (ready.named edits nonempty) (ready.stamped edits) sound
  obtain ⟨error, refused⟩ := refused
  refine ⟨rewrite.failure changed error, ?_⟩
  rw [advance_write, refused]

end Rewrite

namespace Search

open Rewrite

/-- What a search has been through when it is about to look at a place: other places, without an
object unless theirs is the object that others may remove and make again. -/
def Passed (target : ObjectKey) (store : Store) (search : Search) (passed rest : List Place) : Prop :=
  search.places = .ok (passed ++ rest) ∧
    ∀ place ∈ passed, place.key ≠ target → store.objects.get? place.key = none

/-- A search that has come to the place of an object, which it rewrites. -/
structure Found (target : ObjectKey) (store : Store) (search : Search) (rewrite : Rewrite)
    (name : String) : Prop where
  passed : ∃ passed rest, search.Passed target store passed (rewrite.place name :: rest)
  nonempty : name ≠ ""
  edits : Edits rewrite.change

/-- A search that rewrites whatever it may find. -/
structure Suited (target : ObjectKey) (store : Store) (search : Search) : Prop where
  distinct : ∀ places, search.places = .ok places → (places.map Place.key).Nodup
  rewrites : ∀ places, search.places = .ok places → ∀ place ∈ places,
    place.Rewrites ∨ place.key ≠ target ∧ store.objects.get? place.key = none

/-- A search that finds nothing but the object under a key. -/
def Sole (target : ObjectKey) (store : Store) (search : Search) : Prop :=
  ∀ places, search.places = .ok places → ∀ place ∈ places, place.key ≠ target →
    store.objects.get? place.key = none

/-- How far a search can be. -/
inductive Stage (target : ObjectKey) (store : Store) (search : Search) :
    Program Deployment → Prop where
  | asked : Stage target store search search.program
  | connecting {places : List Place} (asked : search.places = .ok places) :
    Stage target store search (.connect .cluster >>= fun _ => search.seek places)
  | seeking {passed rest : List Place} (reached : search.Passed target store passed rest) :
    Stage target store search (search.seek rest)
  | rewriting {rewrite : Rewrite} {name : String} {n : Nat} {program : Program Deployment}
    (found : search.Found target store rewrite name)
    (underway : rewrite.Underway store name n program) : Stage target store search program
  | failed (failure : Failure) : Stage target store search (.done (.error failure))

variable {search : Search} {target : ObjectKey} {store after : Store}
  {program : Program Deployment} {rewrite : Rewrite} {name : String}

theorem Passed.follows {passed rest : List Place} (reached : search.Passed target store passed rest)
    (h : Store.Follows target store after) : search.Passed target after passed rest :=
  ⟨reached.1, fun place mem away => (h.absent place.key away).mpr (reached.2 place mem away)⟩

theorem Found.follows (found : search.Found target store rewrite name)
    (h : Store.Follows target store after) : search.Found target after rewrite name where
  passed := by
    obtain ⟨passed, rest, reached⟩ := found.passed
    exact ⟨passed, rest, reached.follows h⟩
  nonempty := found.nonempty
  edits := found.edits

theorem Suited.follows (suited : search.Suited target store)
    (h : Store.Follows target store after) : search.Suited target after where
  distinct := suited.distinct
  rewrites places asked place mem := by
    rcases suited.rewrites places asked place mem with rewrites | ⟨away, absent⟩
    · exact .inl rewrites
    · exact .inr ⟨away, (h.absent place.key away).mpr absent⟩

theorem Sole.follows (sole : search.Sole target store) (h : Store.Follows target store after) :
    search.Sole target after := by
  intro places asked place mem away
  exact (h.absent place.key away).mpr (sole places asked place mem away)

/-- What others do to the store leaves a search where it is. -/
theorem Stage.follows (stage : search.Stage target store program)
    (h : Store.Follows target store after) : search.Stage target after program := by
  cases stage with
  | asked => exact .asked
  | connecting asked => exact .connecting asked
  | seeking reached => exact .seeking (reached.follows h)
  | rewriting found underway => exact .rewriting (found.follows h) (underway.follows h)
  | failed failure => exact .failed failure

/-- A search whose next call changes nothing, and that is as far as before or further. -/
structure Idles (target : ObjectKey) (search : Search) (now : Time.Instant) (waits : Bool)
    (program : Program Deployment) (memory : Memory) : Prop where
  unchanged : (program.advance now waits memory).2 = memory
  stage : search.Stage target memory.cluster (program.advance now waits memory).1
  ended : ∀ deployment, (program.advance now waits memory).1 = .done (.ok deployment) →
    program = .done (.ok deployment)
  commits : program.commits target memory.cluster = false

/-- A search whose next call replaces the object that it has read, which is still in place. -/
structure Replaces (target : ObjectKey) (search : Search) (now : Time.Instant) (waits : Bool)
    (program : Program Deployment) (memory : Memory) (rewrite : Rewrite) (name : String) (n : Nat)
    (object changed : Json) : Prop where
  found : search.Found target memory.cluster rewrite name
  ready : rewrite.Ready memory.cluster name n object changed
  writes : program = rewrite.write changed
  stored : memory.cluster.objects.get? (rewrite.place name).key = some object
  accepted : rewrite.kind.plural ∉ memory.cluster.rejectedUpdates
  ends : program.advance now waits memory =
    (.done (.ok (rewrite.result (memory.cluster.written (Store.succeeding object changed)))),
      { memory with
        cluster :=
          (memory.cluster.write (rewrite.place name).key (Store.succeeding object changed)).2 })
  commits : program.commits target memory.cluster = decide ((rewrite.place name).key = target)

theorem idles_of_advance {now : Time.Instant} {waits : Bool} {memory : Memory}
    {next : Program Deployment} (advance : program.advance now waits memory = (next, memory))
    (stage : search.Stage target memory.cluster next)
    (goesOn : ∀ deployment, next ≠ .done (.ok deployment))
    (commits : program.commits target memory.cluster = false) :
    search.Idles target now waits program memory where
  unchanged := by rw [advance]
  stage := by rw [advance]; exact stage
  ended deployment ok := by
    rw [advance] at ok
    exact absurd ok (goesOn deployment)
  commits

theorem write_cases {n : Nat} {object changed : Json} {memory : Memory} (now : Time.Instant)
    (waits : Bool) (found : search.Found target memory.cluster rewrite name)
    (ready : rewrite.Ready memory.cluster name n object changed)
    (sound : Store.Sound memory.cluster) :
    search.Idles target now waits (rewrite.write changed) memory ∨
      search.Replaces target now waits (rewrite.write changed) memory rewrite name n object
        changed := by
  have named : nameOf changed = name := ready.named found.edits found.nonempty
  have stamped : Stamped changed n := ready.stamped found.edits
  have held : Store.Held memory.cluster (Store.key rewrite.kind rewrite.namespace name) object n :=
    ready.held
  rcases held.update_cases named stamped sound with ⟨error, run⟩ | ⟨stored, accepted, run⟩
  · left
    have ended : (rewrite.write changed).advance now waits memory =
        (.done (.error (rewrite.failure changed error)), memory) := by
      rw [advance_write, run]
    refine idles_of_advance ended (.failed _) nofun ?_
    change (_ && (memory.cluster.update _ _ _).1.isOk) = false
    rw [run]
    exact Bool.and_false _
  · right
    refine ⟨found, ready, rfl, stored, accepted, ?_, ?_⟩
    · rw [advance_write, run]
      rfl
    · change (decide (Store.key _ _ (nameOf changed) = target) &&
        (memory.cluster.update _ _ _).1.isOk) = _
      rw [run, named]
      exact Bool.and_true _

theorem seek_ne_done (search : Search) (places : List Place) (deployment : Deployment) :
    search.seek places ≠ .done (.ok deployment) := by
  intro ended
  rcases places with _ | ⟨place, rest⟩
  · cases ended
  · cases ended

theorem advance_seek_cons (search : Search) (place : Place) (rest : List Place)
    (now : Time.Instant) (waits : Bool) (memory : Memory) :
    (search.seek (place :: rest)).advance now waits memory =
      (match memory.cluster.objects.get? place.key with
        | some object => place.go object
        | none => search.seek rest, memory) := by
  have read : memory.answerTo now waits (.get place.kind place.namespace place.name) =
      (match memory.cluster.objects.get? place.key with
        | some object => .ok object
        | none => .error (.notFound place.kind.kind place.name), memory) := rfl
  change ((_ : Program Deployment), (_ : Memory)) = _
  rw [read]
  cases memory.cluster.objects.get? place.key <;> rfl

theorem advance_seek_of_stored (search : Search) {place : Place} (rest : List Place)
    (now : Time.Instant) (waits : Bool) {memory : Memory} {object : Json}
    (stored : memory.cluster.objects.get? place.key = some object) :
    (search.seek (place :: rest)).advance now waits memory = (place.go object, memory) := by
  rw [advance_seek_cons, stored]

theorem underway_of_stored {place : Place} {passed rest : List Place} {object : Json}
    (reached : search.Passed target store passed (place :: rest))
    (suited : search.Suited target store) (sound : Store.Sound store)
    (stored : store.objects.get? place.key = some object) :
    ∃ (rewrite : Rewrite) (name : String) (n : Nat), place = rewrite.place name ∧
      search.Found target store rewrite name ∧
      n ≤ store.versions ∧ rewrite.Underway store name n (place.go object) := by
  have among : place ∈ passed ++ place :: rest := by simp
  rcases suited.rewrites _ reached.1 place among with
    ⟨rewrite, name, rfl, nonempty, edits⟩ | ⟨-, absent⟩
  · obtain ⟨n, held⟩ := sound.held stored nonempty
    exact ⟨rewrite, name, n, rfl, ⟨⟨passed, rest, reached⟩, nonempty, edits⟩, held.given,
      underway_program held⟩
  · rw [stored] at absent
    cases absent

/-- A look at the next place comes to an object that is to be rewritten, or passes the place. -/
theorem idles_seek {passed rest : List Place} {memory : Memory} (now : Time.Instant)
    (waits : Bool) (reached : search.Passed target memory.cluster passed rest)
    (suited : search.Suited target memory.cluster) (sound : Store.Sound memory.cluster) :
    search.Idles target now waits (search.seek rest) memory := by
  rcases rest with _ | ⟨place, rest⟩
  · exact ⟨rfl, .failed _, nofun, rfl⟩
  have next := search.advance_seek_cons place rest now waits memory
  rcases stored : memory.cluster.objects.get? place.key with _ | object
  · rw [stored] at next
    have further : search.Passed target memory.cluster (passed ++ [place]) rest := by
      refine ⟨by simpa using reached.1, fun other mem away => ?_⟩
      rcases List.mem_append.mp mem with mem | mem
      · exact reached.2 other mem away
      · rw [List.mem_singleton.mp mem]
        exact stored
    exact idles_of_advance next (.seeking further) (search.seek_ne_done rest) rfl
  · rw [stored] at next
    obtain ⟨rewrite, name, n, rfl, found, -, underway⟩ :=
      underway_of_stored reached suited sound stored
    exact idles_of_advance next (.rewriting found underway) (rewrite.program_ne_done object) rfl

theorem idles_program (search : Search) (target : ObjectKey) (now : Time.Instant) (waits : Bool)
    (memory : Memory) : search.Idles target now waits search.program memory := by
  cases waits with
  | false => exact ⟨rfl, .failed _, nofun, rfl⟩
  | true =>
    have next : search.program.advance now true memory =
        (do
          let places ← Program.ofOutcome search.places
          Program.connect .cluster
          search.seek places, memory) := rfl
    rcases asked : search.places with failure | places
    · rw [asked] at next
      exact idles_of_advance next (.failed failure) nofun rfl
    · rw [asked] at next
      exact idles_of_advance next (.connecting asked) nofun rfl

/-- All that the next call of a search can do. -/
theorem Stage.advance_cases {memory : Memory} (now : Time.Instant) (waits : Bool)
    (stage : search.Stage target memory.cluster program)
    (suited : search.Suited target memory.cluster) (sound : Store.Sound memory.cluster) :
    search.Idles target now waits program memory ∨
      ∃ rewrite name n object changed,
        search.Replaces target now waits program memory rewrite name n object changed := by
  cases stage with
  | asked => exact .inl (idles_program search target now waits memory)
  | @connecting places asked =>
    left
    cases waits with
    | false => exact ⟨rfl, .failed _, nofun, rfl⟩
    | true =>
      have reached : search.Passed target memory.cluster [] places := ⟨asked, nofun⟩
      exact ⟨rfl, .seeking reached, fun deployment ok =>
        absurd ok (search.seek_ne_done places deployment), rfl⟩
  | seeking reached => exact .inl (idles_seek now waits reached suited sound)
  | rewriting found underway =>
    cases underway with
    | connecting ready =>
      left
      cases waits with
      | false => exact ⟨rfl, .failed _, nofun, rfl⟩
      | true =>
        exact ⟨rfl, .rewriting found (.writing ready), nofun, rfl⟩
    | writing ready =>
      rcases write_cases now waits found ready sound with idles | replaces
      · exact .inl idles
      · exact .inr ⟨_, _, _, _, _, replaces⟩
    | ended outcome =>
      exact .inl ⟨rfl, .rewriting found (.ended (n := 0) outcome), fun deployment ok => ok, rfl⟩
  | failed failure => exact .inl ⟨rfl, .failed failure, fun deployment ok => ok, rfl⟩

/-- Whatever the next call of a search does, it is somewhere in the search afterwards. -/
theorem Stage.advance {memory : Memory} (now : Time.Instant) (waits : Bool)
    (stage : search.Stage target memory.cluster program)
    (suited : search.Suited target memory.cluster) (sound : Store.Sound memory.cluster) :
    Store.Follows target memory.cluster (program.advance now waits memory).2.cluster ∧
      Store.Sound (program.advance now waits memory).2.cluster ∧
      search.Stage target (program.advance now waits memory).2.cluster
        (program.advance now waits memory).1 := by
  rcases stage.advance_cases now waits suited sound with
    idles | ⟨rewrite, name, n, object, changed, replaces⟩
  · rw [idles.unchanged]
    exact ⟨Store.Follows.refl target memory.cluster, sound, idles.stage⟩
  · rw [replaces.ends]
    have follows : Store.Follows target memory.cluster
        (memory.cluster.write (rewrite.place name).key (Store.succeeding object changed)).2 := by
      refine Store.follows_write _ fun _ absent => ?_
      rw [replaces.stored] at absent
      cases absent
    have named := replaces.ready.named_succeeding replaces.found.edits replaces.found.nonempty object
    exact ⟨follows, sound.write fun _ => named,
      .rewriting (replaces.found.follows follows) (.ended (n := n) _)⟩

/-- A search that finds the object under a key has read a version of it that was given out. -/
theorem Stage.underway_of_reads {memory : Memory} (now : Time.Instant) (waits : Bool)
    (stage : search.Stage target memory.cluster program)
    (suited : search.Suited target memory.cluster) (sound : Store.Sound memory.cluster)
    (reads : program.reads target memory.cluster = true) :
    ∃ (rewrite : Rewrite) (name : String) (n : Nat), (rewrite.place name).key = target ∧
      name ≠ "" ∧ Edits rewrite.change ∧ n ≤ memory.cluster.versions ∧
      (program.advance now waits memory).2 = memory ∧
      rewrite.Underway memory.cluster name n (program.advance now waits memory).1 := by
  cases stage with
  | asked | connecting _ | failed _ => cases reads
  | rewriting found underway =>
    cases underway with
    | connecting _ | writing _ | ended _ => cases reads
  | @seeking passed rest reached =>
    rcases rest with _ | ⟨place, rest⟩
    · cases reads
    obtain ⟨same, present⟩ : place.key = target ∧
        (memory.cluster.get place.kind place.namespace place.name).isOk = true := by
      simpa [Program.reads, Search.seek, Place.key] using reads
    have next := search.advance_seek_cons place rest now waits memory
    rcases stored : memory.cluster.objects.get? place.key with _ | object
    · have missing : memory.cluster.object? place.kind place.namespace place.name = none := stored
      rw [Store.get, missing] at present
      cases present
    · rw [stored] at next
      obtain ⟨rewrite, name, n, rfl, found, given, underway⟩ :=
        underway_of_stored reached suited sound stored
      refine ⟨rewrite, name, n, same, found.nonempty, found.edits, given, ?_, ?_⟩
      · rw [next]
      · rw [next]
        exact underway

/-! The same search alone. -/

theorem runInMemory_seek (search : Search) (now : Time.Instant) {passed : List Place}
    {place : Place} (rest : List Place) {memory : Memory} {object : Json}
    (absent : ∀ other ∈ passed, memory.cluster.objects.get? other.key = none)
    (stored : memory.cluster.objects.get? place.key = some object) :
    (search.seek (passed ++ place :: rest)).runInMemory now memory =
      (place.go object).runInMemory now memory := by
  induction passed with
  | nil =>
    rw [List.nil_append, ← Program.runInMemory_advance, advance_seek_cons, stored]
  | cons other passed ih =>
    have missing := absent other List.mem_cons_self
    have others := fun place mem => absent place (List.mem_cons_of_mem other mem)
    rw [List.cons_append, ← Program.runInMemory_advance, advance_seek_cons, missing]
    exact ih others

theorem runInMemory_program (now : Time.Instant) {passed rest : List Place} {memory : Memory}
    {object changed : Json} {n : Nat}
    (asked : search.places = .ok (passed ++ rewrite.place name :: rest))
    (absent : ∀ other ∈ passed, memory.cluster.objects.get? other.key = none)
    (stored : memory.cluster.objects.get? (rewrite.place name).key = some object)
    (edits : Edits rewrite.change) (nonempty : name ≠ "")
    (ready : rewrite.Ready memory.cluster name n object changed)
    (accepted : rewrite.kind.plural ∉ memory.cluster.rejectedUpdates) :
    search.program.runInMemory now memory =
      (.ok (rewrite.result (memory.cluster.written (Store.succeeding object changed))),
        { memory with
          cluster :=
            (memory.cluster.write (rewrite.place name).key (Store.succeeding object changed)).2 }) := by
  have named : nameOf changed = name := ready.named edits nonempty
  have version : changed.stringAt versionPath = object.stringAt versionPath := by
    rw [(ready.stamped edits).version, ready.held.stamped.version]
  have updated := memory.cluster.update_of_current rewrite.kind rewrite.namespace named accepted
    stored (.inr version)
  calc search.program.runInMemory now memory
      = (search.seek (passed ++ rewrite.place name :: rest)).runInMemory now memory := by
        simp only [Search.program, asked]
        rfl
    _ = (rewrite.program object).runInMemory now memory :=
        search.runInMemory_seek now rest absent stored
    _ = (rewrite.write changed).runInMemory now memory := by
        simp only [Rewrite.program, ready.run]
        rfl
    _ = _ := by
        rw [← Program.runInMemory_advance, advance_write, updated]
        rfl

/-- A search that replaces the object does the same alone, on a store that mirrors the one that it
shares. -/
theorem Replaces.alone {waits : Bool} {now : Time.Instant} {memory other : Memory} {n : Nat}
    {object changed : Json}
    (replaces : search.Replaces target now waits program memory rewrite name n object changed)
    (here : (rewrite.place name).key = target) (suited : search.Suited target memory.cluster)
    (sound : Store.Sound other.cluster)
    (mirrors : Store.Mirrors target memory.cluster other.cluster) (now' : Time.Instant) :
    ∃ deployment after, search.program.runInMemory now' other = (.ok deployment, after) ∧
      Store.Sound after.cluster ∧
      Store.Mirrors target (program.advance now waits memory).2.cluster after.cluster := by
  obtain ⟨passed, rest, asked, absent⟩ := replaces.found.passed
  have edits := replaces.found.edits
  have nonempty := replaces.found.nonempty
  -- The other store has the object too, under a version of its own, so the change does the same there.
  have mirrored := mirrors.object
  rw [← here, replaces.stored, Option.map_some] at mirrored
  obtain ⟨object', stored, same⟩ := Option.map_eq_some_iff.mp mirrored.symm
  obtain ⟨m, held⟩ := sound.held stored nonempty
  obtain ⟨changed', run, -, changes⟩ := edits.congr_blanked replaces.ready.held.stamped
    replaces.ready.run held.stamped same.symm
  have ready : rewrite.Ready other.cluster name m object' changed' := ⟨held, run⟩
  have accepted : rewrite.kind.plural ∉ other.cluster.rejectedUpdates :=
    mirrors.rejectedUpdates ▸ replaces.accepted
  -- Among the places that were passed there is none of the object, and so none that had one before.
  have distinct := suited.distinct _ asked
  rw [List.map_append, List.map_cons, List.nodup_append] at distinct
  have passes : ∀ place ∈ passed, other.cluster.objects.get? place.key = none := by
    intro place mem
    have away : place.key ≠ target := by
      rw [← here]
      exact distinct.2.2 _ (List.mem_map_of_mem mem) _ List.mem_cons_self
    exact (mirrors.absent place.key away).mp (absent place mem away)
  have alone := runInMemory_program now' asked passes stored edits nonempty ready accepted
  refine ⟨_, _, alone, sound.write fun _ => ready.named_succeeding edits nonempty object', ?_⟩
  rw [replaces.ends, here]
  exact mirrors.write
    (Store.blanked_succeeding replaces.ready.held.stamped held.stamped same.symm changes)

end Search

end DeploymentGateway
