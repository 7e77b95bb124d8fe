import DeploymentGateway.Proofs.Rewrite.Places
import DeploymentGateway.Proofs.Rewrite.Pool
/-!
No update of an object is lost. An operation that has read an object before a write of another one fails
when it writes, and so what a pool of operations leaves of the object is what the operations that
succeeded leave of it when each runs alone, in the order of their writes.
-/

set_option autoImplicit false

namespace DeploymentGateway

open Cluster

variable {target : Target} {searches : List Search} {pool : Pool}

namespace Pool

/-! Threads that have read the object. -/

/-- A thread has read an object with a number, which was given out by now. -/
structure Holds (pool : Pool) (rewrite : Rewrite) (name : String) (n thread : Nat) : Prop where
  given : n ≤ pool.memory.cluster.versions
  underway : ∃ program, pool.threads[thread]? = some program ∧
    rewrite.Underway pool.memory.cluster name n program

variable {rewrite : Rewrite} {name : String} {n thread : Nat}

/-- What a thread has read it has read, whatever is the next move. -/
theorem Holds.step (holds : pool.Holds rewrite name n thread)
    (inv : Invariant target.key searches pool) (move : Move target) :
    (pool.step move).Holds rewrite name n thread := by
  obtain ⟨program, running, underway⟩ := holds.underway
  have follows := (inv.step move).2
  refine ⟨holds.given.trans follows.versions, ?_⟩
  rcases pool.own_or_getElem?_step thread move with ⟨now, waits, rfl⟩ | stays
  · rw [step_advance now waits running] at follows ⊢
    exact ⟨_, getElem?_set_of_running _ running, underway.advance now waits follows⟩
  · exact ⟨program, stays.trans running, underway.follows follows⟩

theorem Holds.run (holds : pool.Holds rewrite name n thread)
    (inv : Invariant target.key searches pool) (moves : List (Move target)) :
    (pool.run moves).Holds rewrite name n thread := by
  induction moves generalizing pool with
  | nil => exact holds
  | cons move rest ih => exact ih (holds.step inv move) (inv.step move).1

theorem gone_run (gone : Store.Gone pool.memory.cluster target.key n)
    (inv : Invariant target.key searches pool) (moves : List (Move target)) :
    Store.Gone (pool.run moves).memory.cluster target.key n := by
  induction moves generalizing pool with
  | nil => exact gone
  | cons move rest ih =>
    obtain ⟨inv', follows⟩ := inv.step move
    exact ih (gone.follows follows) inv'

theorem holds_of_reads (inv : Invariant target.key searches pool)
    (reads : pool.reads target thread = true) (now : Time.Instant) (waits : Bool) :
    ∃ (rewrite : Rewrite) (name : String) (n : Nat), (rewrite.place name).key = target.key ∧
      name ≠ "" ∧ Edits rewrite.change ∧
      (pool.step (.advance thread now waits : Move target)).Holds rewrite name n thread := by
  rw [Pool.reads, Option.any_eq_true] at reads
  obtain ⟨program, running, reads⟩ := reads
  obtain ⟨search, asked, stage⟩ := inv.stages thread program running
  have suited := inv.suited search (List.mem_of_getElem? asked)
  obtain ⟨rewrite, name, n, same, nonempty, edits, given, unchanged, underway⟩ :=
    stage.underway_of_reads now waits suited inv.sound reads
  refine ⟨rewrite, name, n, same, nonempty, edits, ?_⟩
  rw [step_advance now waits running, unchanged]
  exact ⟨given, _, getElem?_set_of_running _ running, underway⟩

/-- A successful write of the object puts an end to every version that it had. -/
theorem gone_of_write (inv : Invariant target.key searches pool) {move : Move target}
    {write : Write target} (written : pool.write? move = some write)
    (given : n ≤ pool.memory.cluster.versions) :
    Store.Gone (pool.step move).memory.cluster target.key n := by
  cases move with
  | intervene intervention =>
    rcases intervention.call_cases (Store.Mirrors.refl target.key pool.memory.cluster) with
      ⟨failed, -⟩ | ⟨-, gone, -⟩
    · rw [write?, failed] at written
      cases written
    · exact gone n given
  | advance advanced now waits =>
    rcases running : pool.threads[advanced]? with _ | program
    · simp [write?, running] at written
    rw [write?_advance running] at written
    obtain ⟨search, -, -, idles | ⟨rewrite, name, m, object, changed, replaces⟩⟩ :=
      inv.advance_cases running now waits
    · rw [idles.commits] at written
      cases written
    · rw [replaces.commits] at written
      by_cases same : (rewrite.place name).key = target.key
      · rw [step_advance now waits running, replaces.ends, same]
        exact Store.gone_write given _
      · simp [same] at written

/-- A thread that has read the object before a write of another fails when it writes, and writes
nothing. -/
theorem step_of_stale (inv : Invariant target.key searches pool)
    (holds : pool.Holds rewrite name n thread) (place : (rewrite.place name).key = target.key)
    (nonempty : name ≠ "") (edits : Edits rewrite.change)
    (gone : Store.Gone pool.memory.cluster target.key n) (updates : pool.updates thread = true)
    (now : Time.Instant) (waits : Bool) :
    ∃ failure, pool.step (.advance thread now waits : Move target) =
      { pool with threads := pool.threads.set thread (.done (.error failure)) } := by
  obtain ⟨program, running, underway⟩ := holds.underway
  rw [Pool.updates, running] at updates
  cases underway with
  | connecting _ | ended _ => cases updates
  | writing ready =>
    rw [← place] at gone
    obtain ⟨failure, failed⟩ :=
      Rewrite.advance_write_of_gone now waits edits nonempty ready gone inv.sound
    exact ⟨failure, by rw [step_advance now waits running, failed]⟩

/-! Threads that succeed. -/

theorem ended_step {outcome : Outcome Deployment}
    (ended : pool.threads[thread]? = some (.done outcome)) (move : Move target) :
    (pool.step move).threads[thread]? = some (.done outcome) := by
  rcases pool.own_or_getElem?_step thread move with ⟨now, waits, rfl⟩ | stays
  · rw [step_advance now waits ended]
    exact getElem?_set_of_running _ ended
  · exact stays.trans ended

theorem succeeded_of_write (inv : Invariant target.key searches pool) {move : Move target}
    (written : pool.write? move = some (.committed thread)) :
    (pool.step move).Succeeded thread := by
  cases move with
  | intervene intervention => simp [write?] at written
  | advance advanced now waits =>
    rcases running : pool.threads[advanced]? with _ | program
    · simp [write?, running] at written
    rw [write?_advance running] at written
    obtain ⟨search, -, -, idles | ⟨rewrite, name, m, object, changed, replaces⟩⟩ :=
      inv.advance_cases running now waits
    · rw [idles.commits] at written
      cases written
    · obtain rfl : advanced = thread := by
        split at written
        · simpa using written
        · cases written
      rw [Succeeded, step_advance now waits running, replaces.ends]
      exact ⟨_, getElem?_set_of_running _ running⟩

/-- A thread that finds nothing but the object ends well only by writing it. -/
theorem succeeded_step (inv : Invariant target.key searches pool)
    (sole : ∀ search, searches[thread]? = some search →
      search.Sole target.key pool.memory.cluster) (move : Move target) :
    (pool.step move).Succeeded thread ↔
      pool.Succeeded thread ∨ pool.write? move = some (.committed thread) := by
  constructor
  · rintro ⟨deployment, ended⟩
    rcases pool.own_or_getElem?_step thread move with ⟨now, waits, rfl⟩ | stays
    · rcases running : pool.threads[thread]? with _ | program
      · simp [step, running] at ended
      rw [step_advance now waits running] at ended
      have done := (getElem?_set_of_running _ running).symm.trans ended
      rw [write?_advance running]
      obtain ⟨search, asked, -, idles | ⟨rewrite, name, m, object, changed, replaces⟩⟩ :=
        inv.advance_cases running now waits
      · left
        exact ⟨deployment, by rw [running, idles.ended deployment (Option.some.inj done)]⟩
      · right
        obtain ⟨passed, rest, places, -⟩ := replaces.found.passed
        have here : (rewrite.place name).key = target.key := by
          by_contra away
          have absent := sole search asked _ places (rewrite.place name) (by simp) away
          rw [replaces.stored] at absent
          cases absent
        rw [replaces.commits, here]
        simp
    · exact .inl ⟨deployment, stays.symm.trans ended⟩
  · rintro (⟨deployment, ended⟩ | written)
    · exact ⟨deployment, ended_step ended move⟩
    · exact succeeded_of_write inv written

theorem succeeded_run (inv : Invariant target.key searches pool)
    (sole : ∀ search, searches[thread]? = some search →
      search.Sole target.key pool.memory.cluster) (moves : List (Move target)) :
    (pool.run moves).Succeeded thread ↔
      pool.Succeeded thread ∨ .committed thread ∈ pool.writes moves := by
  induction moves generalizing pool with
  | nil => simp [run, writes]
  | cons move rest ih =>
    obtain ⟨inv', follows⟩ := inv.step move
    have sole' (search : Search) (asked : searches[thread]? = some search) :=
      (sole search asked).follows follows
    rw [run_cons, ih inv' sole', succeeded_step inv sole move, writes, List.mem_append,
      Option.mem_toList, or_assoc]

/-! The same writes one after the other. -/

theorem replay_append (now : Time.Instant) (programs : List (Program Deployment))
    (memory : Memory) (first second : List (Write target)) :
    replay now programs memory (first ++ second) =
      replay now programs memory first >>= fun after => replay now programs after second :=
  List.foldlM_append

/-- What a move does to the object, its write does again on a memory that mirrors this one. -/
theorem replay_step (inv : Invariant target.key searches pool) {memory : Memory}
    (sound : Store.Sound memory.cluster)
    (mirrors : Store.Mirrors target.key pool.memory.cluster memory.cluster)
    (now : Time.Instant) (move : Move target) :
    ∃ after, replay now (searches.map Search.program) memory (pool.write? move).toList = .ok after ∧
      Store.Sound after.cluster ∧
      Store.Mirrors target.key (pool.step move).memory.cluster after.cluster := by
  cases move with
  | intervene intervention =>
    rcases intervention.call_cases mirrors with ⟨failed, same⟩ | ⟨succeeds, -, mirrors'⟩
    · refine ⟨memory, ?_, sound, ?_⟩
      · rw [write?, failed]
        rfl
      · change Store.Mirrors target.key (intervention.call pool.memory.cluster).2 memory.cluster
        rw [same]
        exact mirrors
    · refine ⟨intervention.apply memory, ?_, intervention.sound sound, mirrors'⟩
      rw [write?, succeeds]
      rfl
  | advance thread now' waits =>
    rcases running : pool.threads[thread]? with _ | program
    · refine ⟨memory, ?_, sound, ?_⟩
      · simp only [write?, running]
        rfl
      · simpa only [step, running] using mirrors
    rw [write?_advance running, step_advance now' waits running]
    obtain ⟨search, asked, suited, idles | ⟨rewrite, name, m, object, changed, replaces⟩⟩ :=
      inv.advance_cases running now' waits
    · refine ⟨memory, ?_, sound, ?_⟩
      · rw [idles.commits]
        rfl
      · rw [idles.unchanged]
        exact mirrors
    rw [replaces.commits]
    -- The call may also replace another object, which counts as no write of this one.
    by_cases here : (rewrite.place name).key = target.key
    · obtain ⟨deployment, after, alone, sound', mirrors'⟩ :=
        replaces.alone here suited sound mirrors now
      refine ⟨after, ?_, sound', mirrors'⟩
      have program : (searches.map Search.program)[thread]? = some search.program := by
        rw [List.getElem?_map, asked]
        rfl
      have again : (Write.committed thread : Write target).replay now
          (searches.map Search.program) memory = .ok after := by
        simp only [Write.replay, program, alone]
      rw [if_pos (decide_eq_true here)]
      change (Write.replay now _ _ memory >>= fun memory => .ok memory) = _
      rw [again]
      rfl
    · refine ⟨memory, ?_, sound, ?_⟩
      · rw [if_neg (by simpa using here)]
        rfl
      · have follows := (inv.step (.advance thread now' waits : Move target)).2
        rw [step_advance now' waits running] at follows
        refine mirrors.follows follows ?_
        rw [replaces.ends]
        exact SortedMap.get?_insert_of_ne _ (Ne.symm here) _

theorem replay_run (inv : Invariant target.key searches pool) {memory : Memory}
    (sound : Store.Sound memory.cluster)
    (mirrors : Store.Mirrors target.key pool.memory.cluster memory.cluster)
    (now : Time.Instant) (moves : List (Move target)) :
    ∃ after, replay now (searches.map Search.program) memory (pool.writes moves) = .ok after ∧
      Store.Mirrors target.key (pool.run moves).memory.cluster after.cluster := by
  induction moves generalizing pool memory with
  | nil => exact ⟨memory, rfl, mirrors⟩
  | cons move rest ih =>
    obtain ⟨between, first, sound', mirrors'⟩ := replay_step inv sound mirrors now move
    obtain ⟨after, others, mirrors''⟩ := ih (inv.step move).1 sound' mirrors'
    refine ⟨after, ?_, mirrors''⟩
    rw [writes, replay_append, first]
    exact others

end Pool

/-- An operation that is asked for at an instant. -/
structure Task where
  operation : Operation
  now : Time.Instant

namespace Task

def program (task : Task) : Program Deployment :=
  task.operation.program task.now

def search (task : Task) : Search :=
  task.operation.search task.now

end Task

/-- The pool of some tasks that have not begun. -/
def Pool.start (tasks : List Task) (memory : Memory) : Pool :=
  ⟨tasks.map Task.program, memory⟩

theorem map_program (tasks : List Task) :
    tasks.map Task.program = (tasks.map Task.search).map Search.program := by
  rw [List.map_map]
  exact List.map_congr_left fun task _ => task.operation.program_eq_search task.now

/-- Of some tasks on a memory none is lost, in whatever order they make their calls. -/
structure NoLostUpdate (target : Target) (tasks : List Task) (memory : Memory) : Prop where
  /-- A thread that has read the object before a successful write of it, and writes after that, fails
  and leaves the memory as it is. -/
  stale : ∀ (before between after : List (Move target)) (thread : Nat) (now now' : Time.Instant)
    (waits waits' : Bool) (other : Move target) (reading changing writing : Pool),
    reading = (Pool.start tasks memory).run before →
    changing = (reading.step (.advance thread now waits : Move target)).run between →
    writing = (changing.step other).run after →
    reading.reads target thread = true → (changing.write? other).isSome = true →
    writing.updates thread = true →
    ∃ failure, writing.step (.advance thread now' waits' : Move target) =
      { writing with threads := writing.threads.set thread (.done (.error failure)) }
  /-- A thread that can find no other object succeeds exactly if it writes the object. -/
  succeeded : ∀ (moves : List (Move target)) (thread : Nat) (task : Task),
    tasks[thread]? = some task →
    (∀ key ∈ task.operation.keys, key ≠ target.key → memory.cluster.objects.get? key = none) →
    (((Pool.start tasks memory).run moves).Succeeded thread ↔
      .committed thread ∈ (Pool.start tasks memory).writes moves)
  /-- One after the other, the tasks that wrote the object succeed again and leave the same object. -/
  serial : ∀ (moves : List (Move target)) (now : Time.Instant),
    ∃ alone, replay now (tasks.map Task.program) memory
        ((Pool.start tasks memory).writes moves) = .ok alone ∧
      (alone.cluster.object? target.kind target.namespace target.name).map blanked =
        (((Pool.start tasks memory).run moves).memory.cluster.object? target.kind target.namespace
          target.name).map blanked

/-- Operations that each rewrite one object lose no update of it, on every memory that the cluster can
get into. -/
theorem noLostUpdate {target : Target} {tasks : List Task} {memory : Memory}
    (reachable : memory.cluster.Reachable)
    (single : ∀ task ∈ tasks, task.operation.SingleObject target.key memory.cluster) :
    NoLostUpdate target tasks memory := by
  have sound := reachable.sound
  have start : Pool.start tasks memory =
      ⟨(tasks.map Task.search).map Search.program, memory⟩ :=
    congrArg (Pool.mk · memory) (map_program tasks)
  have inv : (Pool.start tasks memory).Invariant target.key (tasks.map Task.search) := by
    rw [start]
    refine Pool.invariant_start sound fun search mem => ?_
    obtain ⟨task, among, rfl⟩ := List.mem_map.mp mem
    exact task.operation.suited task.now (single task among)
  refine ⟨?_, fun moves thread task asked alone => ?_, fun moves now => ?_⟩
  · rintro before between after thread now now' waits waits' other _ _ _ rfl rfl rfl reads wrote
      updates
    obtain ⟨write, written⟩ := Option.isSome_iff_exists.mp wrote
    -- The number of the object that is read is followed to the write: from `changed` on it is gone.
    have reading := inv.run before
    obtain ⟨rewrite, name, n, here, nonempty, edits, holds⟩ :=
      Pool.holds_of_reads reading reads now waits
    have read := (reading.step (.advance thread now waits : Move target)).1
    have changing := read.run between
    have held := holds.run read between
    have changed := (changing.step other).1
    have gone := Pool.gone_of_write changing written held.given
    exact Pool.step_of_stale (changed.run after) ((held.step changing other).run changed after) here
      nonempty edits (Pool.gone_run gone changed after) updates now' waits'
  · have sole : ∀ search, (tasks.map Task.search)[thread]? = some search →
        search.Sole target.key memory.cluster := by
      intro search found places listed place mem away
      rw [List.getElem?_map, asked] at found
      cases found
      refine alone place.key ?_ away
      rw [← Operation.keys_of_places listed]
      exact List.mem_map_of_mem mem
    have begun : ¬ (Pool.start tasks memory).Succeeded thread := by
      rintro ⟨deployment, ended⟩
      rw [start] at ended
      simp only [List.getElem?_map, asked, Option.map_some] at ended
      cases ended
    rw [Pool.succeeded_run inv sole moves, or_iff_right begun]
  · have mirrors := Store.Mirrors.refl target.key memory.cluster
    obtain ⟨after, again, same⟩ := Pool.replay_run inv sound mirrors now moves
    rw [map_program]
    exact ⟨after, again, same.object.symm⟩

/-- An application that is scaled by two callers at once. -/
def scaledTwice : List Task := [
  ⟨.applicationScale "argocd" "web" 2, ⟨0, 0⟩⟩, ⟨.applicationScale "argocd" "web" 3, ⟨1, 0⟩⟩]

/-- The memory with that application. -/
def scaledMemory : Memory :=
  let metadata := Json.ofPairs [("name", .string "web"), ("namespace", .string "argocd")]
  let spec := Json.ofPairs [("source", .ofPairs [("chart", .string "nginx")])]
  let app := Json.ofPairs [("metadata", metadata), ("spec", spec)]
  ⟨Store.empty.seed Application.kind app, .empty⟩

/-- The second caller reads, the first one reads and writes, and so the second one fails. -/
theorem noLostUpdate_scaledTwice :
    let call (thread : Nat) : Move ⟨Application.kind, "argocd", "web"⟩ :=
      .advance thread ⟨2, 0⟩ true
    let reading := (Pool.start scaledTwice scaledMemory).run [call 1, call 1]
    let changing := (reading.step (call 1)).run [call 0, call 0, call 0, call 0]
    let writing := (changing.step (call 0)).run [call 1]
    ∃ failure, writing.step (call 1) =
      { writing with threads := writing.threads.set 1 (.done (.error failure)) } := by
  intro call reading changing writing
  have lossless : NoLostUpdate ⟨Application.kind, "argocd", "web"⟩ scaledTwice scaledMemory := by
    refine noLostUpdate (.seed Application.kind _ .empty) fun task mem => ?_
    obtain rfl | rfl := List.mem_pair.mp mem
    · trivial
    · trivial
  have reads : reading.reads ⟨Application.kind, "argocd", "web"⟩ 1 = true := by decide +kernel
  have wrote : (changing.write? (call 0)).isSome = true := by decide +kernel
  have updates : writing.updates 1 = true := by decide +kernel
  exact lossless.stale [call 1, call 1] [call 0, call 0, call 0, call 0] [call 1] 1 ⟨2, 0⟩ ⟨2, 0⟩
    true true (call 0) reading changing writing rfl rfl rfl reads wrote updates

end DeploymentGateway
