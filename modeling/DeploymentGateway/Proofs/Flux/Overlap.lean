import DeploymentGateway.Proofs.Flux.Contention
/-!
Two rollbacks of one kustomization at once. Each pins the shared repository and then writes the
kustomization, and the one whose write comes too late undoes its pin by giving back what it has found. So
it also takes back what the other has pinned in between, although that one has ended well.
-/

set_option autoImplicit false

namespace DeploymentGateway.Flux.OnCluster

open Cluster

/-! What the writes of a repository by some rollbacks come to. -/

namespace Mark

/-- The number of times that a rollback has written the repository. -/
def writes : Mark → Nat
  | fresh => 0
  | pinned _ => 1
  | repaired => 2

/-- The next write of a rollback, and the commit that it leaves: first the pin, and then the repair, which
brings back what the pin has replaced. -/
def write? (commit : String) (current : Option Json) : Mark → Option (Option Json × Mark)
  | fresh => some (some (.string commit), pinned current)
  | pinned before => some (before, repaired)
  | repaired => none

theorem writes_of_write? {commit : String} {current current' : Option Json} {mark mark' : Mark}
    (written : mark.write? commit current = some (current', mark')) :
    mark'.writes = mark.writes + 1 := by
  cases mark <;> cases written <;> rfl

theorem writes_le_two (mark : Mark) : mark.writes ≤ 2 := by
  cases mark <;> simp [writes]

end Mark

/-- The commit of a repository, and what each of some rollbacks has done to it. -/
structure Ledger where
  commit : Option Json
  marks : Nat → Mark

namespace Ledger

/-- The ledger of a repository that no rollback has written yet. -/
def opened (start : Option Json) : Ledger :=
  ⟨start, fun _ => .fresh⟩

def write? (commit : String) (ledger : Ledger) (thread : Nat) : Option Ledger :=
  ((ledger.marks thread).write? commit ledger.commit).map fun (current, mark) =>
    ⟨current, Function.update ledger.marks thread mark⟩

/-- The writes of some rollbacks, one after the other. -/
def replay? (commit : String) (ledger : Ledger) (threads : List Nat) : Option Ledger :=
  threads.foldlM (write? commit) ledger

variable {commit : String} {ledger after : Ledger} {threads : List Nat}

theorem writes_of_write? {thread : Nat} (written : ledger.write? commit thread = some after)
    (other : Nat) :
    (after.marks other).writes =
      (ledger.marks other).writes + if thread = other then 1 else 0 := by
  obtain ⟨⟨current, mark⟩, next, rfl⟩ := Option.map_eq_some_iff.mp written
  change (Function.update ledger.marks thread mark other).writes = _
  by_cases own : thread = other
  · subst own
    rw [if_pos rfl, Function.update_self, Mark.writes_of_write? next]
  · rw [if_neg own, Function.update_of_ne (Ne.symm own), Nat.add_zero]

/-- A ledger tells how often each rollback has written. -/
theorem writes_of_replay? (replayed : ledger.replay? commit threads = some after) (thread : Nat) :
    (after.marks thread).writes = (ledger.marks thread).writes + threads.count thread := by
  induction threads generalizing ledger with
  | nil =>
    obtain rfl : ledger = after := by simpa [replay?] using replayed
    rfl
  | cons first rest ih =>
    obtain ⟨between, written, replayed⟩ := Option.bind_eq_some_iff.mp replayed
    rw [ih replayed, writes_of_write? written thread, List.count_cons]
    simp only [beq_iff_eq]
    omega

theorem replay?_append {between : Ledger} {more : List Nat}
    (first : ledger.replay? commit threads = some between)
    (second : between.replay? commit more = some after) :
    ledger.replay? commit (threads ++ more) = some after := by
  rw [replay?, List.foldlM_append, show threads.foldlM (write? commit) ledger = some between from first]
  exact second

private theorem exists_replicate {a b : Nat} (ne : a ≠ b)
    (pair : ∀ thread ∈ threads, thread = a ∨ thread = b) (once : threads.count a = 1)
    (twice : threads.count b ≤ 2) :
    ∃ early late, early + late ≤ 2 ∧
      threads = List.replicate early b ++ a :: List.replicate late b := by
  obtain ⟨early, late, rfl⟩ := List.append_of_mem (List.count_pos_iff.mp (once ▸ Nat.one_pos))
  simp only [List.count_append, List.count_cons_self, List.count_cons_of_ne ne] at once twice
  have others {part : List Nat} (none : part.count a = 0)
      (pair : ∀ thread ∈ part, thread = a ∨ thread = b) : part = List.replicate part.length b := by
    refine List.eq_replicate_of_mem fun thread mem => (pair thread mem).resolve_left ?_
    rintro rfl
    exact List.count_eq_zero.mp none mem
  have first : early = List.replicate early.length b :=
    others (by omega) fun thread mem => pair thread (List.mem_append_left _ mem)
  have second : late = List.replicate late.length b :=
    others (by omega) fun thread mem => pair thread (List.mem_append_right _ (.tail _ mem))
  rw [first, second, List.count_replicate_self, List.count_replicate_self] at twice
  exact ⟨early.length, late.length, twice, by rw [← first, ← second]⟩

/-- The pin of a rollback that has not repaired it is still there, unless another has pinned before it and
made its repair after it, and so has brought back another commit. -/
theorem commit_of_replay? {a b : Nat} {start before : Option Json} (ne : a ≠ b)
    (pair : ∀ thread ∈ threads, thread = a ∨ thread = b)
    (replayed : (opened start).replay? commit threads = some after)
    (pinned : after.marks a = .pinned before) :
    after.commit = some (.string commit) ↔
      ¬ (threads = [b, a, b] ∧ start ≠ some (.string commit)) := by
  have count (thread : Nat) : threads.count thread = (after.marks thread).writes := by
    rw [writes_of_replay? replayed thread]
    exact (Nat.zero_add _).symm
  have once : threads.count a = 1 := by
    rw [count a, pinned]
    rfl
  have twice : threads.count b ≤ 2 := by
    rw [count b]
    exact Mark.writes_le_two _
  obtain ⟨early, late, bound, rfl⟩ := exists_replicate ne pair once twice
  obtain ⟨rfl, rfl⟩ | ⟨rfl, rfl⟩ | ⟨rfl, rfl⟩ | ⟨rfl, rfl⟩ | ⟨rfl, rfl⟩ | ⟨rfl, rfl⟩ :
      (early = 0 ∧ late = 0) ∨ (early = 0 ∧ late = 1) ∨ (early = 0 ∧ late = 2) ∨
        (early = 1 ∧ late = 0) ∨ (early = 1 ∧ late = 1) ∨ (early = 2 ∧ late = 0) := by omega
  all_goals
    simp [replay?, write?, Mark.write?, opened, List.replicate, ne, ne.symm] at replayed
    subst replayed
    simp [List.replicate, ne, ne.symm]

end Ledger

/-! What one call of a rollback does to the ledger and to the store. -/

namespace Rollback

variable {home commit : String} {object : Json} {store after : Store} {mark mark' : Mark}
  {commits : Bool}

private theorem commit?_write {new : Json} :
    commit? object (store.write (repositoryKey object) new).2 = commitIn (new.lookup refPath) := by
  have there : (store.write (repositoryKey object) new).2.objects.get? (repositoryKey object) =
      some (store.written new) := SortedMap.get?_insert_self _ _ _
  have kept : (store.written new).lookup refPath = new.lookup refPath :=
    Json.lookup_set_of_names (by simp) (by decide) _ _
  rw [commit?_of_stored there, kept]

private theorem repositoryKey_ne (home name : String) (object : Json) :
    repositoryKey object ≠ Store.key kustomizationKind home name :=
  Store.key_ne_of_plural (by decide) _ _ _ _

/-- A call that replaces the repository is the next write of the rollback, and no other call changes the
commit. -/
theorem Effect.commit? (effect : Effect home object commit store mark commits mark' after) :
    if commits then
      mark.write? commit (OnCluster.commit? object store) =
        some (OnCluster.commit? object after, mark')
    else OnCluster.commit? object after = OnCluster.commit? object store ∧ mark' = mark := by
  cases effect with
  | idle => exact ⟨rfl, rfl⟩
  | @confirm new _ alike =>
    refine ⟨?_, rfl⟩
    have kept : (store.write (Store.key kustomizationKind home (nameOf object)) new).2.objects.get?
        (repositoryKey object) = store.objects.get? (repositoryKey object) :=
      SortedMap.get?_insert_of_ne _ (repositoryKey_ne _ _ _) _
    rw [OnCluster.commit?, ref?, kept]
    rfl
  | pin commits =>
    rw [if_pos rfl, commit?_write, commits]
    rfl
  | repair restores =>
    rw [if_pos rfl, commit?_write, restores]
    rfl

theorem Effect.inPlace (effect : Effect home object commit store mark commits mark' after)
    (inPlace : InPlace home object store) : InPlace home object after := by
  obtain ⟨current, stored, alike⟩ := inPlace
  cases effect with
  | idle => exact ⟨current, stored, alike⟩
  | @confirm new _ alike' =>
    exact ⟨_, Store.object?_write_self store _ _ new, (alike_written store new).trans alike'⟩
  | pin _ | repair _ =>
    refine ⟨current, ?_, alike⟩
    rw [Store.object?_write_of_ne _ _ _ (repositoryKey_ne _ _ _).symm]
    exact stored

end Rollback

/-! Pools of rollbacks. -/

/-- The repository of a kustomization. -/
def repositoryTarget (object : Json) : Target :=
  ⟨gitRepositoryKind, (sourceRef .kustomization object).namespace,
    (sourceRef .kustomization object).name⟩

/-- A turn in a pool: whose call is next, when it is made, and whether its caller still waits. -/
structure Turn where
  thread : Nat
  now : Time.Instant
  waits : Bool

def Turn.move {target : Target} (turn : Turn) : Move target :=
  .advance turn.thread turn.now turn.waits

/-- Every thread of a pool is somewhere in its rollback, and a ledger tells what the rollbacks have done to
the repository. -/
structure Overlap (home : String) (object : Json) (commit : String) (rollbacks : List Rollback)
    (ledger : Ledger) (pool : Pool) : Prop where
  reachable : pool.memory.cluster.Reachable
  inPlace : InPlace home object pool.memory.cluster
  current : commit? object pool.memory.cluster = ledger.commit
  stages : ∀ (thread : Nat) (program : Program Deployment),
    pool.threads[thread]? = some program →
    ∃ rollback, rollbacks[thread]? = some rollback ∧
      rollback.Stage home object commit pool.memory.cluster (ledger.marks thread) program

namespace Overlap

variable {home commit : String} {object : Json} {rollbacks : List Rollback} {ledger : Ledger}
  {pool : Pool} (means : ∀ rollback ∈ rollbacks, rollback.Means object)
  (last : ∀ other, commitOf (object.stringAt ["status", "lastAppliedRevision"]) = some other →
    other = commit)

private theorem advanced {thread : Nat} {program : Program Deployment} {rollback : Rollback}
    {mark : Mark} {commits : Bool} (overlap : Overlap home object commit rollbacks ledger pool)
    (running : pool.threads[thread]? = some program) (asked : rollbacks[thread]? = some rollback)
    (now : Time.Instant) (waits : Bool)
    (effect : Rollback.Effect home object commit pool.memory.cluster (ledger.marks thread) commits mark
      (program.advance now waits pool.memory).2.cluster)
    (further : rollback.Stage home object commit (program.advance now waits pool.memory).2.cluster mark
      (program.advance now waits pool.memory).1) :
    Overlap home object commit rollbacks
      ⟨commit? object (program.advance now waits pool.memory).2.cluster,
        Function.update ledger.marks thread mark⟩
      (pool.step (.advance thread now waits : Move (repositoryTarget object))) := by
  have reachable : (program.advance now waits pool.memory).2.cluster.Reachable := by
    cases program with
    | done outcome => exact overlap.reachable
    | call c next => exact Memory.reachable_answerTo now waits c _ overlap.reachable
  obtain ⟨target, follows⟩ := effect.follows
  rw [Pool.step_advance now waits running]
  refine ⟨reachable, effect.inPlace overlap.inPlace, rfl, fun other program' present => ?_⟩
  -- The others stay where they are, since all that they have read is as good as before.
  by_cases same : thread = other
  · subst same
    rw [Pool.getElem?_set_of_running _ running] at present
    cases present
    refine ⟨rollback, asked, ?_⟩
    simpa only [Function.update_self] using further
  · rw [List.getElem?_set_ne same] at present
    obtain ⟨rollback', asked', stage⟩ := overlap.stages other program' present
    refine ⟨rollback', asked', ?_⟩
    simpa only [Function.update_of_ne (Ne.symm same)] using stage.follows follows

include means last

/-- The write of a turn, if it is one, is the next one of its rollback. -/
theorem step (overlap : Overlap home object commit rollbacks ledger pool) (turn : Turn) :
    ∃ writers after,
      (pool.write? (turn.move : Move (repositoryTarget object))).toList =
        writers.map Write.committed ∧
      (∀ writer ∈ writers, writer < rollbacks.length) ∧
      ledger.replay? commit writers = some after ∧
      Overlap home object commit rollbacks after
        (pool.step (turn.move : Move (repositoryTarget object))) := by
  obtain ⟨thread, now, waits⟩ := turn
  rcases running : pool.threads[thread]? with _ | program
  · refine ⟨[], ledger, ?_, nofun, rfl, ?_⟩
    · simp [Turn.move, Pool.write?, running]
    · simpa [Turn.move, Pool.step, running] using overlap
  obtain ⟨rollback, asked, stage⟩ := overlap.stages thread program running
  obtain ⟨mark, effect, further⟩ := stage.advances now waits overlap.reachable
    (means rollback (List.mem_of_getElem? asked)) overlap.inPlace last
  have advanced := overlap.advanced running asked now waits effect further
  have key : (repositoryTarget object).key = repositoryKey object := rfl
  have written := effect.commit?
  rw [Turn.move, Pool.write?_advance running, key]
  rw [overlap.current] at written
  rcases commits : program.commits (repositoryKey object) pool.memory.cluster with _ | _
  · rw [commits] at written
    obtain ⟨current, same⟩ := written
    rw [current, same, Function.update_eq_self] at advanced
    exact ⟨[], ledger, rfl, nofun, rfl, advanced⟩
  · rw [commits, if_pos rfl] at written
    refine ⟨[thread], _, rfl, fun writer mem => ?_, ?_, advanced⟩
    · rw [List.mem_singleton.mp mem]
      exact (List.getElem?_eq_some_iff.mp asked).1
    · simp [Ledger.replay?, Ledger.write?, written]

/-- So it is after any turns. -/
theorem run (overlap : Overlap home object commit rollbacks ledger pool) (turns : List Turn) :
    ∃ writers after,
      pool.writes (turns.map Turn.move : List (Move (repositoryTarget object))) =
        writers.map Write.committed ∧
      (∀ writer ∈ writers, writer < rollbacks.length) ∧
      ledger.replay? commit writers = some after ∧
      Overlap home object commit rollbacks after
        (pool.run (turns.map Turn.move : List (Move (repositoryTarget object)))) := by
  induction turns generalizing ledger pool with
  | nil => exact ⟨[], ledger, rfl, nofun, rfl, overlap⟩
  | cons turn rest ih =>
    obtain ⟨first, between, wrote, within, replayed, overlap'⟩ := overlap.step means last turn
    obtain ⟨others, after, wrote', within', replayed', overlap''⟩ := ih overlap'
    refine ⟨first ++ others, after, ?_, fun writer mem => ?_,
      Ledger.replay?_append replayed replayed', overlap''⟩
    · rw [List.map_cons, Pool.writes, wrote, wrote', List.map_append]
    · rcases List.mem_append.mp mem with mem | mem
      · exact within writer mem
      · exact within' writer mem

end Overlap

theorem IsKustomization.means {home : String} {rollback : Rollback} {store : Store} {object : Json}
    (found : IsKustomization home rollback.id store object) (reachable : store.Reachable) :
    rollback.Means object ∧ InPlace home object store := by
  obtain ⟨kind, name, parsed, notHelm, present⟩ := found
  obtain rfl : nameOf object = name := reachable.nameOf_eq present
  exact ⟨⟨kind, parsed, notHelm⟩, object, present, Alike.refl object⟩

private theorem overlap_start {home commit : String} {object : Json} {rollbacks : List Rollback}
    {memory : Memory} (reachable : memory.cluster.Reachable)
    (inPlace : InPlace home object memory.cluster) :
    Overlap home object commit rollbacks (.opened (commit? object memory.cluster))
      (Pool.start (rollbacks.map (Rollback.task home)) memory) where
  reachable
  inPlace
  current := rfl
  stages thread program present := by
    rw [Pool.start, map_program, List.map_map, List.map_map, List.getElem?_map] at present
    obtain ⟨rollback, asked, rfl⟩ := Option.map_eq_some_iff.mp present
    exact ⟨rollback, asked, .asked⟩

/-- Of two rollbacks of a kustomization at once one has ended well. Then the repository has the commit that
was applied last, unless the other one has pinned it before and given it back afterwards what it had at
first. -/
theorem commit?_of_rollback_succeeded {home : String} {rollback rollback' : Rollback}
    {memory : Memory} {object : Json} (reachable : memory.cluster.Reachable)
    (found : IsKustomization home rollback.id memory.cluster object)
    (found' : IsKustomization home rollback'.id memory.cluster object) (turns : List Turn)
    {thread other : Fin 2} (ne : thread ≠ other) :
    let start := Pool.start [rollback.task home, rollback'.task home] memory
    let moves : List (Move (repositoryTarget object)) := turns.map Turn.move
    (start.run moves).Succeeded thread →
      ∃ commit, commitOf (object.stringAt ["status", "lastAppliedRevision"]) = some commit ∧
        (commit? object (start.run moves).memory.cluster = some (.string commit) ↔
          ¬ (start.writes moves = [.committed other, .committed thread, .committed other] ∧
            commit? object memory.cluster ≠ some (.string commit))) := by
  rintro start moves ⟨deployment, ended⟩
  have last : ∀ commit, commitOf (object.stringAt ["status", "lastAppliedRevision"]) = some commit →
      commit = (commitOf (object.stringAt ["status", "lastAppliedRevision"])).getD "" := by
    intro commit named
    rw [named]
    rfl
  generalize (commitOf (object.stringAt ["status", "lastAppliedRevision"])).getD "" = commit at last
  have means : ∀ asked ∈ [rollback, rollback'], asked.Means object := by
    intro asked mem
    rcases List.mem_pair.mp mem with rfl | rfl
    · exact (found.means reachable).1
    · exact (found'.means reachable).1
  have inPlace := (found.means reachable).2
  have begun : Overlap home object commit [rollback, rollback']
      (.opened (commit? object memory.cluster)) start := overlap_start reachable inPlace
  obtain ⟨writers, ledger, wrote, within, replayed, overlap⟩ := begun.run means last turns
  obtain ⟨asked, -, stage⟩ := overlap.stages thread _ ended
  obtain ⟨named, before, pinned⟩ := stage.pinned_of_succeeded
  have pair : ∀ writer ∈ writers, writer = thread ∨ writer = other := by
    intro writer mem
    have two : writer < 2 := within writer mem
    have apart : (thread : Nat) ≠ other := fun same => ne (Fin.ext same)
    omega
  have order : start.writes moves = [.committed other, .committed thread, .committed other] ↔
      writers = [↑other, ↑thread, ↑other] := by
    have injective : Function.Injective (Write.committed : Nat → Write (repositoryTarget object)) :=
      fun _ _ same => Write.committed.inj same
    rw [wrote]
    exact (List.map_injective_iff.mpr injective).eq_iff (b := [↑other, ↑thread, ↑other])
  refine ⟨commit, named, ?_⟩
  rw [order, overlap.current]
  exact Ledger.commit_of_replay? (fun same => ne (Fin.ext same)) pair replayed pinned

/-- Two rollbacks of one kustomization, which is given by its name and with its kind. -/
def byName : Rollback :=
  ⟨"web", 0, ⟨0, 0⟩⟩

def byKind : Rollback :=
  ⟨"kustomization:web", 0, ⟨1, 0⟩⟩

/-- The pool of both. -/
def overlapping : Pool :=
  Pool.start [byName.task "flux-system", byKind.task "flux-system"] writable

/-- Some turns of one thread. -/
def turnsOf (thread count : Nat) : List Turn :=
  List.replicate count ⟨thread, ⟨2, 0⟩, true⟩

/-- The moves of the second rollback up to its pin, and then of the whole first one. -/
def pinnedTwice : List (Move (repositoryTarget storedKustomization)) :=
  (turnsOf 1 6 ++ turnsOf 0 8).map Turn.move

private theorem writable_reachable : writable.cluster.Reachable :=
  .seed _ _ (.seed _ _ .empty)

private theorem writable_found :
    IsKustomization "flux-system" byName.id writable.cluster storedKustomization ∧
      IsKustomization "flux-system" byKind.id writable.cluster storedKustomization :=
  ⟨⟨none, "web", rfl, nofun, rfl⟩, ⟨some .kustomization, "web", rfl, nofun, rfl⟩⟩

/-- As long as the second one has not repaired, the pin of the first is there. -/
theorem commit?_of_rollback_succeeded_pinnedTwice :
    (overlapping.run pinnedTwice).Succeeded 0 ∧
      commit? storedKustomization (overlapping.run pinnedTwice).memory.cluster =
        some (.string "abc123") := by
  have succeeded : (overlapping.run pinnedTwice).Succeeded 0 := ⟨_, rfl⟩
  obtain ⟨commit, named, kept⟩ := commit?_of_rollback_succeeded writable_reachable writable_found.1
    writable_found.2 (turnsOf 1 6 ++ turnsOf 0 8) (by decide : (0 : Fin 2) ≠ 1) succeeded
  have applied : commitOf (storedKustomization.stringAt ["status", "lastAppliedRevision"]) =
      some "abc123" := by rfl
  obtain rfl : "abc123" = commit := Option.some.inj (applied.symm.trans named)
  have twice : (overlapping.writes pinnedTwice).length = 2 := by decide +kernel
  refine ⟨succeeded, kept.mpr fun ⟨order, _⟩ => ?_⟩
  have thrice : (overlapping.writes pinnedTwice).length = 3 := congrArg List.length order
  omega

/-- When the second one goes on, its write is too late, and its repair takes back the commit that the first
has pinned, although that has ended well. -/
theorem repair_undoes_other_rollback :
    writable.cluster.Reachable ∧
      IsKustomization "flux-system" byName.id writable.cluster storedKustomization ∧
      IsKustomization "flux-system" byKind.id writable.cluster storedKustomization ∧
      commitOf (storedKustomization.stringAt ["status", "lastAppliedRevision"]) = some "abc123" ∧
      ∃ (moves : List (Move (repositoryTarget storedKustomization))) (deployment : Deployment)
        (failure : Failure),
        (overlapping.run moves).threads = [.done (.ok deployment), .done (.error failure)] ∧
          commit? storedKustomization (overlapping.run moves).memory.cluster ≠
            some (.string "abc123") := by
  refine ⟨writable_reachable, writable_found.1, writable_found.2, rfl,
    pinnedTwice ++ (turnsOf 1 5).map Turn.move, _, _, rfl, fun pinned => ?_⟩
  have present := congrArg Option.isSome pinned
  exact absurd present (by decide +kernel)

end DeploymentGateway.Flux.OnCluster
