import DeploymentGateway.Proofs.Program.Contract
/-!
A rule for the objects of the cluster, kept by programs that share it. Each program may count on the objects that it
reads, and owes the same for those that it writes. Then the rule holds whatever the programs, and however their
calls come one after the other.
-/

set_option autoImplicit false

namespace DeploymentGateway

open Cluster

/-- A rule for the objects of each kind, which the cluster itself never breaks: what it writes into an object on
its way to the store lies elsewhere. -/
structure ObjectRule where
  Keeps : String → Json → Prop
  placed : ∀ plural object current (store : Store), Keeps plural object →
    Keeps plural (store.written (Store.succeeding current object))
  admitted : ∀ plural object now kind «namespace» (store : Store), Keeps plural object →
    Keeps plural (store.written (Store.admitted now kind «namespace» object))

variable {rule : ObjectRule}

namespace ObjectRule

/-- All objects of a cluster keep the rule. -/
def Holds (rule : ObjectRule) (objects : Objects) : Prop :=
  ∀ key object, objects.get? key = some object → rule.Keeps key.plural object

theorem Holds.insert {objects : Objects} (holds : rule.Holds objects) (key : ObjectKey) {object : Json}
    (keeps : rule.Keeps key.plural object) : rule.Holds (objects.insert key object) := by
  intro other found stored
  by_cases here : other = key
  · rw [here, SortedMap.get?_insert_self] at stored
    cases stored
    exact here ▸ keeps
  · rw [SortedMap.get?_insert_of_ne _ here] at stored
    exact holds other found stored

theorem Holds.erase {objects : Objects} (holds : rule.Holds objects) (key : ObjectKey) :
    rule.Holds (objects.erase key) :=
  fun other found stored => holds other found (SortedMap.get?_of_get?_erase stored)

end ObjectRule

/-- What a call writes keeps the rule. -/
def Call.Sends (rule : ObjectRule) : Call → Prop
  | create kind _ object | update kind _ object => rule.Keeps kind.plural object
  | _ => True

/-- What a reply gives to read keeps the rule. -/
def Call.Gives (rule : ObjectRule) : (c : Call) → c.Reply → Prop
  | get kind _ _, .ok object => rule.Keeps kind.plural object
  | _, _ => True

/-- To send and to be given what keeps a rule is a contract. -/
def ObjectRule.contract (rule : ObjectRule) : Contract where
  Sends := Call.Sends rule
  Gives := Call.Gives rule
  reads c reading := by
    cases c with
    | create _ _ _ | update _ _ _ => cases reading
    | _ => trivial

namespace Program

variable {α β : Type}

/-- As long as what it reads keeps the rule, all that a program writes does. -/
inductive Upholds (rule : ObjectRule) : Program α → Prop where
  | done (outcome : Outcome α) : Upholds rule (.done outcome)
  | call {c : Call} {next : c.Reply → Program α} (sends : c.Sends rule)
    (goes : ∀ reply, c.Gives rule reply → Upholds rule (next reply)) : Upholds rule (.call c next)

theorem upholds_iff_honours {p : Program α} : p.Upholds rule ↔ p.Honours rule.contract := by
  constructor
  · intro upholds
    induction upholds with
    | done outcome => exact .done outcome
    | call sends _ ih => exact .call sends ih
  · intro honours
    induction honours with
    | done outcome => exact .done outcome
    | call sends _ ih => exact .call sends ih

theorem Upholds.bind {p : Program α} (upholds : p.Upholds rule) {f : α → Program β}
    (next : ∀ a, (f a).Upholds rule) : (p >>= f).Upholds rule :=
  upholds_iff_honours.mpr <| (upholds_iff_honours.mp upholds).bind fun a => upholds_iff_honours.mp (next a)

theorem Upholds.attempt {p : Program α} (upholds : p.Upholds rule) : p.attempt.Upholds rule :=
  upholds_iff_honours.mpr (upholds_iff_honours.mp upholds).attempt

/-- To read is always allowed. -/
theorem ReadOnly.upholds {p : Program α} (reads : p.ReadOnly) : p.Upholds rule :=
  upholds_iff_honours.mpr reads.honours

section

variable {f : β → Program α}

theorem upholds_check {outcome : Outcome β} (next : ∀ b, outcome = .ok b → (f b).Upholds rule) :
    (ofOutcome outcome >>= f).Upholds rule :=
  upholds_iff_honours.mpr <| honours_check fun b checked => upholds_iff_honours.mp (next b checked)

theorem upholds_expect {ε : Type} {reply : Except ε β} {failure : ε → Failure}
    (next : ∀ b, (f b).Upholds rule) : (expect reply failure >>= f).Upholds rule :=
  upholds_iff_honours.mpr <| honours_expect fun b _ => upholds_iff_honours.mp (next b)

end

section

variable {kind : ResourceKind} {«namespace» name : String}

theorem upholds_get {f : Except ClusterError Json → Program α} (fails : ∀ error, (f (.error error)).Upholds rule)
    (next : ∀ object, rule.Keeps kind.plural object → (f (.ok object)).Upholds rule) :
    (get kind «namespace» name >>= f).Upholds rule := by
  refine .call trivial fun reply gives => ?_
  cases reply with
  | ok object => exact next object gives
  | error error => exact fails error

theorem upholds_create {object : Json} {f : Except ClusterError Json → Program α}
    (keeps : rule.Keeps kind.plural object) (next : ∀ reply, (f reply).Upholds rule) :
    (create kind «namespace» object >>= f).Upholds rule :=
  .call keeps fun reply _ => next reply

theorem upholds_update {object : Json} {f : Except ClusterError Json → Program α}
    (keeps : rule.Keeps kind.plural object) (next : ∀ reply, (f reply).Upholds rule) :
    (update kind «namespace» object >>= f).Upholds rule :=
  .call keeps fun reply _ => next reply

theorem upholds_delete {f : Except ClusterError Unit → Program α} (next : ∀ reply, (f reply).Upholds rule) :
    (delete kind «namespace» name >>= f).Upholds rule :=
  .call trivial fun reply _ => next reply

theorem upholds_checkpoint {f : Unit → Program α} (next : (f ()).Upholds rule) :
    (checkpoint >>= f).Upholds rule :=
  upholds_iff_honours.mpr <| honours_checkpoint (upholds_iff_honours.mp next)

theorem upholds_connect {client : Client} {f : Unit → Program α} (next : (f ()).Upholds rule) :
    (connect client >>= f).Upholds rule :=
  upholds_iff_honours.mpr <| honours_connect (upholds_iff_honours.mp next)

end

end Program

/-- A rewrite upholds a rule that its change keeps. -/
theorem Rewrite.upholds_program (rewrite : Rewrite) {object : Json}
    (keeps : ∀ changed, rewrite.change object = .ok changed → rule.Keeps rewrite.kind.plural changed) :
    (rewrite.program object).Upholds rule :=
  Program.upholds_iff_honours.mpr (rewrite.honours_program keeps)

/-- A search upholds a rule if whatever it goes on with does, on an object that keeps the rule. -/
theorem Search.upholds_program (search : Search)
    (goes : ∀ places, search.places = .ok places → ∀ place ∈ places, ∀ object,
      rule.Keeps place.kind.plural object → (place.go object).Upholds rule) :
    search.program.Upholds rule :=
  Program.upholds_iff_honours.mpr <| search.honours_program fun places found place mem object keeps =>
    Program.upholds_iff_honours.mp (goes places found place mem object keeps)

/-- The cluster in memory answers a call: it gives what keeps the rule, and the rule holds afterwards. -/
theorem ObjectRule.Holds.answerTo {memory : Memory} (holds : rule.Holds memory.cluster.objects)
    (now : Time.Instant) (waits : Bool) {c : Call} (sends : c.Sends rule) :
    c.Gives rule (memory.answerTo now waits c).1 ∧
      rule.Holds (memory.answerTo now waits c).2.cluster.objects := by
  cases c with
  | get kind «namespace» name =>
    refine ⟨?_, holds⟩
    rcases found : memory.cluster.object? kind «namespace» name with _ | object
    · simp [Store.get, found, Call.Gives]
    · have kept : rule.Keeps kind.plural object := holds _ _ found
      simpa [Store.get, found, Call.Gives] using kept
  | create kind «namespace» object =>
    refine ⟨trivial, ?_⟩
    rcases memory.cluster.create_cases now kind «namespace» object with ⟨error, run⟩ | ⟨-, -, run⟩
    · simpa [run] using holds
    · have kept := rule.admitted kind.plural object now kind «namespace» memory.cluster sends
      simpa [run] using holds.insert (Store.key kind «namespace» (nameOf object)) kept
  | update kind «namespace» object =>
    refine ⟨trivial, ?_⟩
    rcases memory.cluster.update_cases kind «namespace» object with ⟨error, run⟩ | ⟨current, -, -, -, run⟩
    · simpa [run] using holds
    · have kept := rule.placed kind.plural object current memory.cluster sends
      simpa [run] using holds.insert (Store.key kind «namespace» (nameOf object)) kept
  | delete kind «namespace» name =>
    refine ⟨trivial, ?_⟩
    rcases memory.cluster.delete_cases kind «namespace» name with ⟨error, run⟩ | run
    · simpa [run] using holds
    · simpa [run] using holds.erase _
  | _ => exact ⟨trivial, holds⟩

/-- A contract keeps a property of the memory: a call within it leaves the property, and has a reply within it. -/
structure Contract.Keeps (contract : Contract) (Holds : Memory → Prop) : Prop where
  answers : ∀ {memory : Memory}, Holds memory → ∀ (now : Time.Instant) (waits : Bool) {c : Call}, contract.Sends c →
    contract.Gives c (memory.answerTo now waits c).1 ∧ Holds (memory.answerTo now waits c).2
  rejects : ∀ {memory : Memory}, Holds memory → ∀ kind, Holds (memory.rejectUpdates kind)

/-! Programs that share a memory. -/

/-- A memory, and the programs that are underway on it, each as far as it has come. -/
structure Workload where
  memory : Memory
  underway : List (Program Unit)

/-- What can happen to a workload: a program of those that are allowed begins, one that is underway makes its next
call, for a caller who still waits or has given up, or the cluster begins to refuse the updates of a kind. -/
inductive Workload.Step (Allowed : Program Unit → Prop) : Workload → Workload → Prop where
  | begin {memory : Memory} {underway : List (Program Unit)} (p : Program Unit) (allowed : Allowed p) :
    Step Allowed ⟨memory, underway⟩ ⟨memory, p :: underway⟩
  | call {memory : Memory} (before : List (Program Unit)) {after : List (Program Unit)} {c : Call}
    {next : c.Reply → Program Unit} (now : Time.Instant) (waits : Bool) :
    Step Allowed ⟨memory, before ++ .call c next :: after⟩
      ⟨(memory.answerTo now waits c).2, before ++ next (memory.answerTo now waits c).1 :: after⟩
  | reject {memory : Memory} {underway : List (Program Unit)} (kind : ResourceKind) :
    Step Allowed ⟨memory, underway⟩ ⟨memory.rejectUpdates kind, underway⟩

/-- The workloads that a memory can come to. -/
inductive Workload.Reached (Allowed : Program Unit → Prop) (start : Memory) : Workload → Prop where
  | start : Reached Allowed start ⟨start, []⟩
  | step {before after : Workload} (reached : Reached Allowed start before)
    (step : Workload.Step Allowed before after) : Reached Allowed start after

namespace Workload

variable {Allowed : Program Unit → Prop} {start : Memory} {contract : Contract}

/-- A program that has the memory to itself is a workload that runs step by step. -/
theorem Reached.of_runs {α : Type} {p : Program α} {now : Time.Instant} {memory after : Memory}
    {outcome : Outcome α} {others : List (Program Unit)} (run : p.Runs now memory outcome after)
    (reached : Reached Allowed start ⟨memory, (p >>= fun _ => pure ()) :: others⟩) :
    ∃ left, Reached Allowed start ⟨after, left :: others⟩ := by
  induction run with
  | done outcome memory => exact ⟨_, reached⟩
  | call waits _ ih => exact ih (reached.step (.call [] now waits))
  | reject kind _ ih => exact ih (reached.step (.reject kind))

/-- The memory has a property, and every program that is underway honours a contract. -/
structure Abides (contract : Contract) (Holds : Memory → Prop) (workload : Workload) : Prop where
  holds : Holds workload.memory
  honoured : ∀ p ∈ workload.underway, p.Honours contract

/-- What a contract keeps is left by no step of programs that honour it. -/
theorem Abides.step {Holds : Memory → Prop} {before after : Workload} (abides : before.Abides contract Holds)
    (keeps : contract.Keeps Holds) (allowed : ∀ p, Allowed p → p.Honours contract)
    (step : Step Allowed before after) : after.Abides contract Holds := by
  cases step with
  | begin p begun => exact ⟨abides.holds, List.forall_mem_cons.mpr ⟨allowed p begun, abides.honoured⟩⟩
  | @call memory first rest c next now waits =>
    obtain ⟨front, back⟩ := List.forall_mem_append.mp abides.honoured
    obtain ⟨here, back⟩ := List.forall_mem_cons.mp back
    cases here with | call sends goes =>
    obtain ⟨gives, holds⟩ := keeps.answers abides.holds now waits sends
    exact ⟨holds, List.forall_mem_append.mpr ⟨front, List.forall_mem_cons.mpr ⟨goes _ gives, back⟩⟩⟩
  | reject kind => exact ⟨keeps.rejects abides.holds kind, abides.honoured⟩

/-- The rule holds, and every program that is underway upholds it. -/
structure Lawful (rule : ObjectRule) (workload : Workload) : Prop where
  holds : rule.Holds workload.memory.cluster.objects
  upheld : ∀ p ∈ workload.underway, p.Upholds rule

theorem Lawful.step {before after : Workload} (lawful : before.Lawful rule)
    (allowed : ∀ p, Allowed p → p.Upholds rule) (step : Step Allowed before after) :
    after.Lawful rule := by
  have keeps : rule.contract.Keeps fun memory => rule.Holds memory.cluster.objects :=
    ⟨fun holds now waits _ sends => holds.answerTo now waits sends, fun holds _ => holds⟩
  have abides : before.Abides rule.contract fun memory => rule.Holds memory.cluster.objects :=
    ⟨lawful.holds, fun p mem => Program.upholds_iff_honours.mp (lawful.upheld p mem)⟩
  have stays := abides.step keeps (fun p begun => Program.upholds_iff_honours.mp (allowed p begun)) step
  exact ⟨stays.holds, fun p mem => Program.upholds_iff_honours.mpr (stays.honoured p mem)⟩

/-- A rule that holds at first and is upheld by all programs always holds. -/
theorem Reached.lawful {workload : Workload} (reached : Reached Allowed start workload)
    (holds : rule.Holds start.cluster.objects)
    (allowed : ∀ p, Allowed p → p.Upholds rule) : workload.Lawful rule := by
  induction reached with
  | start => exact ⟨holds, List.forall_mem_nil _⟩
  | step _ step ih => exact ih.step allowed step

end Workload

end DeploymentGateway
