import DeploymentGateway.Proofs.Rewrite.Thread
/-!
Several programs on one memory. Their calls come in any order, and between them an object may be removed
and made again. The successful writes of that object are what a run is later compared by.
-/

set_option autoImplicit false

namespace DeploymentGateway

open Cluster

/-- Where an object of the cluster is. -/
structure Target where
  kind : ResourceKind
  «namespace» : String
  name : String

def Target.key (target : Target) : ObjectKey :=
  Store.key target.kind target.namespace target.name

/-- What others do to an object besides rewriting it: they remove it, or make it again. -/
inductive Intervention (target : Target) where
  | remove
  | recreate (now : Time.Instant) (object : Json) (named : nameOf object = target.name)

/-- A move in a pool: the next call of one of its threads, or an intervention. -/
inductive Move (target : Target) where
  | advance (thread : Nat) (now : Time.Instant) (waits : Bool)
  | intervene (intervention : Intervention target)

/-- A successful write of an object: by a thread, or by an intervention. -/
inductive Write (target : Target) where
  | committed (thread : Nat)
  | intervened (intervention : Intervention target)

/-- Programs that share a memory, each as far as it has come. -/
structure Pool where
  threads : List (Program Deployment)
  memory : Memory

variable {target : Target}

/-- What the cluster says to an intervention, and what becomes of it. -/
def Intervention.call : Intervention target → Store → Except ClusterError Unit × Store
  | remove, store => store.delete target.kind target.namespace target.name
  | recreate now object _, store =>
    ((store.create now target.kind target.namespace object).1.map fun _ => (),
      (store.create now target.kind target.namespace object).2)

def Intervention.apply (intervention : Intervention target) (memory : Memory) : Memory :=
  { memory with cluster := (intervention.call memory.cluster).2 }

namespace Pool

/-- A pool after a move. A thread that has ended or that there is not makes no call. -/
def step (pool : Pool) : Move target → Pool
  | .advance thread now waits =>
    match pool.threads[thread]? with
    | some program =>
      { threads := pool.threads.set thread (program.advance now waits pool.memory).1
        memory := (program.advance now waits pool.memory).2 }
    | none => pool
  | .intervene intervention => { pool with memory := intervention.apply pool.memory }

def run (pool : Pool) (moves : List (Move target)) : Pool :=
  moves.foldl step pool

/-- The successful write of the object that a move is, if it is one. -/
def write? (pool : Pool) : Move target → Option (Write target)
  | .advance thread _ _ =>
    match pool.threads[thread]? with
    | some program =>
      if program.commits target.key pool.memory.cluster then some (.committed thread) else none
    | none => none
  | .intervene intervention =>
    if (intervention.call pool.memory.cluster).1.isOk then some (.intervened intervention)
    else none

/-- The successful writes of the object in some moves, in their order. -/
def writes (pool : Pool) : List (Move target) → List (Write target)
  | [] => []
  | move :: rest => (pool.write? move).toList ++ (pool.step move).writes rest

/-- The next call of a thread finds an object. -/
def reads (pool : Pool) (target : Target) (thread : Nat) : Bool :=
  pool.threads[thread]?.any (Program.reads target.key pool.memory.cluster)

def updates (pool : Pool) (thread : Nat) : Bool :=
  pool.threads[thread]?.any Program.updates

/-- A thread has ended well. -/
def Succeeded (pool : Pool) (thread : Nat) : Prop :=
  ∃ deployment, pool.threads[thread]? = some (.done (.ok deployment))

end Pool

/-- Do a write again, alone: run the whole program of its thread, or repeat the intervention. -/
def Write.replay (now : Time.Instant) (programs : List (Program Deployment)) :
    Write target → Memory → Outcome Memory
  | committed thread, memory =>
    match programs[thread]? with
    | some program =>
      match program.runInMemory now memory with
      | (.ok _, after) => .ok after
      | (.error failure, _) => .error failure
    | none => .ok memory
  | intervened intervention, memory => .ok (intervention.apply memory)

/-- Do some writes again, one after the other. -/
def replay (now : Time.Instant) (programs : List (Program Deployment)) (memory : Memory)
    (writes : List (Write target)) : Outcome Memory :=
  writes.foldlM (fun memory write => write.replay now programs memory) memory

/-! What an intervention does. -/

namespace Intervention

variable {store other : Store} (intervention : Intervention target)

theorem follows (store : Store) : Store.Follows target.key store (intervention.call store).2 := by
  cases intervention with
  | remove => exact store.follows_delete target.kind target.namespace target.name
  | recreate now object named =>
    have follows := store.follows_create now target.kind target.namespace object
    rw [named] at follows
    exact follows

theorem sound (h : Store.Sound store) : Store.Sound (intervention.call store).2 := by
  cases intervention with
  | remove => exact h.delete target.kind target.namespace target.name
  | recreate now object named => exact h.create now target.kind target.namespace object

/-- An intervention fails and changes nothing, or it puts an end to every version there was and does
the same to a store that mirrors this one. -/
theorem call_cases (mirrors : Store.Mirrors target.key store other) :
    (intervention.call store).1.isOk = false ∧ (intervention.call store).2 = store ∨
      (intervention.call store).1.isOk = true ∧
        (∀ n ≤ store.versions, Store.Gone (intervention.call store).2 target.key n) ∧
        Store.Mirrors target.key (intervention.call store).2 (intervention.call other).2 := by
  have absent_iff : store.object? target.kind target.namespace target.name = none ↔
      other.object? target.kind target.namespace target.name = none := mirrors.absent_target
  cases intervention with
  | remove =>
    rcases stored : store.object? target.kind target.namespace target.name with _ | object
    · left
      simp only [call, store.delete_of_absent _ _ stored]
      exact ⟨rfl, trivial⟩
    · right
      have present : (store.object? target.kind target.namespace target.name).isSome := by
        rw [stored]
        rfl
      have present' : (other.object? target.kind target.namespace target.name).isSome := by
        rw [← Option.ne_none_iff_isSome]
        intro absent
        rw [absent_iff.mpr absent] at stored
        cases stored
      simp only [call, store.delete_of_present _ _ present, other.delete_of_present _ _ present']
      refine ⟨rfl, fun n given => Store.gone_of_absent given ?_, mirrors.erase⟩
      exact SortedMap.get?_erase_self _ _
  | recreate now object named =>
    by_cases nameless : target.name = ""
    · left
      simp only [call, store.create_nameless now _ _ named nameless]
      exact ⟨rfl, trivial⟩
    rcases stored : store.object? target.kind target.namespace target.name with _ | current
    · right
      simp only [call, store.create_of_absent now _ _ named nameless stored,
        other.create_of_absent now _ _ named nameless (absent_iff.mp stored)]
      exact ⟨rfl, fun n given => Store.gone_write given _, mirrors.write rfl⟩
    · left
      have present : (store.object? target.kind target.namespace target.name).isSome := by
        rw [stored]
        rfl
      simp only [call, store.create_of_present now _ _ named nameless present]
      exact ⟨rfl, trivial⟩

end Intervention

/-! What is known of a pool of searches. -/

namespace Pool

/-- Every thread of a pool is somewhere in its search. -/
structure Invariant (target : ObjectKey) (searches : List Search) (pool : Pool) : Prop where
  sound : Store.Sound pool.memory.cluster
  suited : ∀ search ∈ searches, search.Suited target pool.memory.cluster
  stages : ∀ (thread : Nat) (program : Program Deployment),
    pool.threads[thread]? = some program →
    ∃ search, searches[thread]? = some search ∧
      search.Stage target pool.memory.cluster program

variable {searches : List Search} {pool : Pool} {thread : Nat}

theorem step_advance {program : Program Deployment} (now : Time.Instant) (waits : Bool)
    (running : pool.threads[thread]? = some program) :
    pool.step (.advance thread now waits : Move target) =
      { threads := pool.threads.set thread (program.advance now waits pool.memory).1
        memory := (program.advance now waits pool.memory).2 } := by
  simp only [step, running]

theorem getElem?_set_of_running {program : Program Deployment} (next : Program Deployment)
    (running : pool.threads[thread]? = some program) :
    (pool.threads.set thread next)[thread]? = some next := by
  have here : thread < pool.threads.length := (List.getElem?_eq_some_iff.mp running).1
  exact List.getElem?_set_self here

theorem write?_advance {program : Program Deployment}
    (running : pool.threads[thread]? = some program) (now : Time.Instant) (waits : Bool) :
    pool.write? (.advance thread now waits : Move target) =
      if program.commits target.key pool.memory.cluster then some (.committed thread)
      else none := by
  simp only [write?, running]

/-- A move is the next call of a thread, or leaves the thread where it is. -/
theorem own_or_getElem?_step (pool : Pool) (thread : Nat) (move : Move target) :
    (∃ now waits, move = .advance thread now waits) ∨
      (pool.step move).threads[thread]? = pool.threads[thread]? := by
  cases move with
  | intervene intervention => exact .inr rfl
  | advance advanced now waits =>
    by_cases own : advanced = thread
    · exact .inl ⟨now, waits, by rw [own]⟩
    · right
      simp only [step]
      rcases pool.threads[advanced]? with _ | program
      · rfl
      · exact List.getElem?_set_ne own

theorem invariant_start {memory : Memory} (sound : Store.Sound memory.cluster)
    (suited : ∀ search ∈ searches, search.Suited target.key memory.cluster) :
    Invariant target.key searches ⟨searches.map Search.program, memory⟩ where
  sound
  suited
  stages thread program present := by
    rw [List.getElem?_map] at present
    obtain ⟨search, asked, rfl⟩ := Option.map_eq_some_iff.mp present
    exact ⟨search, asked, .asked⟩

/-- A move leaves every thread somewhere in its search, and the store follows the one before. -/
theorem Invariant.step (inv : Invariant target.key searches pool) (move : Move target) :
    Invariant target.key searches (pool.step move) ∧
      Store.Follows target.key pool.memory.cluster (pool.step move).memory.cluster := by
  cases move with
  | intervene intervention =>
    have follows := intervention.follows pool.memory.cluster
    refine ⟨⟨intervention.sound inv.sound, fun search mem => ?_, fun thread program present => ?_⟩,
      follows⟩
    · exact (inv.suited search mem).follows follows
    · obtain ⟨search, asked, stage⟩ := inv.stages thread program present
      exact ⟨search, asked, stage.follows follows⟩
  | advance thread now waits =>
    rcases running : pool.threads[thread]? with _ | program
    · have idle : pool.step (.advance thread now waits : Move target) = pool := by
        simp only [Pool.step, running]
      rw [idle]
      exact ⟨inv, Store.Follows.refl _ _⟩
    · obtain ⟨search, asked, stage⟩ := inv.stages thread program running
      have mem : search ∈ searches := List.mem_of_getElem? asked
      obtain ⟨follows, sound, further⟩ := stage.advance now waits (inv.suited search mem) inv.sound
      rw [step_advance now waits running]
      refine ⟨⟨sound, fun search mem => (inv.suited search mem).follows follows,
        fun other program' present => ?_⟩, follows⟩
      by_cases same : thread = other
      · subst same
        rw [getElem?_set_of_running _ running] at present
        cases present
        exact ⟨search, asked, further⟩
      · rw [List.getElem?_set_ne same] at present
        obtain ⟨search', asked', stage'⟩ := inv.stages other program' present
        exact ⟨search', asked', stage'.follows follows⟩

/-- All that the next call of a thread can do. -/
theorem Invariant.advance_cases (inv : Invariant target.key searches pool)
    {program : Program Deployment} (running : pool.threads[thread]? = some program)
    (now : Time.Instant) (waits : Bool) :
    ∃ search, searches[thread]? = some search ∧ search.Suited target.key pool.memory.cluster ∧
      (search.Idles target.key now waits program pool.memory ∨
        ∃ rewrite name n object changed,
          search.Replaces target.key now waits program pool.memory rewrite name n object
            changed) := by
  obtain ⟨search, asked, stage⟩ := inv.stages thread program running
  have suited := inv.suited search (List.mem_of_getElem? asked)
  exact ⟨search, asked, suited, stage.advance_cases now waits suited inv.sound⟩

theorem run_cons (pool : Pool) (move : Move target) (rest : List (Move target)) :
    pool.run (move :: rest) = (pool.step move).run rest :=
  rfl

theorem Invariant.run (inv : Invariant target.key searches pool) (moves : List (Move target)) :
    Invariant target.key searches (pool.run moves) := by
  induction moves generalizing pool with
  | nil => exact inv
  | cons move rest ih => exact ih (inv.step move).1

end Pool

end DeploymentGateway
