import DeploymentGateway.Health.Application
import DeploymentGateway.Proofs.Text.Letters
/-!
The verdict on an application against its table. Health and synchronization select a row; an operation under
way or failed changes the verdict of that row afterwards, without hiding a failure and without completing
anything.
-/

set_option autoImplicit false

namespace DeploymentGateway.Health.Application

open Text

/-! What signals say. -/

/-- A signal is a word, up to the case of letters and blanks around it. -/
def Says (signal : Option String) (word : String) : Prop :=
  ∃ text ∈ signal, sameIgnoringCase (trim text) word = true

def Unreported (signal : Option String) : Prop :=
  ∀ text ∈ signal, isBlankText text = true

/-- The words for health that have a row of their own. -/
def knownHealth : List String :=
  ["healthy", "progressing", "degraded", "missing", "suspended"]

def Unrecognised (health : Option String) : Prop :=
  ¬ Unreported health ∧ ∀ word ∈ knownHealth, ¬ Says health word

/-- The phase of the operation is a word up to the case of letters. Blanks around it are part of it. -/
def Signals.InPhase (signals : Signals) (word : String) : Prop :=
  ∃ phase ∈ signals.operationPhase, sameIgnoringCase phase word = true

/-- An operation is under way. -/
def Signals.Operating (signals : Signals) : Prop :=
  signals.InPhase "running" ∨ signals.InPhase "terminating"

def Signals.OperationFailed (signals : Signals) : Prop :=
  signals.InPhase "failed" ∨ signals.InPhase "error"

structure Signals.InService (signals : Signals) : Prop where
  healthy : Says signals.health "healthy"
  synced : Says signals.sync "synced"
  quiet : ¬ signals.Operating

/-- The same signals without an operation. -/
def Signals.atRest (signals : Signals) : Signals :=
  { signals with operationPhase := none }

/-- The table: a status and a progress for what health and synchronization say. -/
inductive Row (signals : Signals) : DeploymentStatus → UInt8 → Prop where
  | synced : Says signals.health "healthy" → Says signals.sync "synced" → Row signals .deployed 100
  | unsynced : Says signals.health "healthy" → ¬ Says signals.sync "synced" → Row signals .deploying 75
  | progressing : Says signals.health "progressing" → Row signals .deploying 50
  | degraded : Says signals.health "degraded" → Row signals .failed 0
  | missing : Says signals.health "missing" → Row signals .failed 0
  | suspended : Says signals.health "suspended" → Row signals .pending 10
  | unreported : Unreported signals.health → ¬ Says signals.sync "outofsync" → Row signals .pending 0
  | unrecognised : Unrecognised signals.health → ¬ Says signals.sync "outofsync" → Row signals .failed 0
  | outOfSync : Unreported signals.health ∨ Unrecognised signals.health →
      Says signals.sync "outofsync" → Row signals .deploying 25

/-! What is compared with the words. -/

theorem plain_eq_empty_iff (signal : Option String) : plain signal = "" ↔ Unreported signal := by
  rcases signal with _ | text
  · simp [plain, Unreported, lowercase_eq_empty_iff, trim_eq_empty_iff, isBlankText]
  · simp [plain, Unreported, lowercase_eq_empty_iff, trim_eq_empty_iff]

theorem plain_eq_iff (signal : Option String) {word : String} (small : lowercase word = word)
    (nonempty : word ≠ "") : plain signal = word ↔ Says signal word := by
  rcases signal with _ | text
  · have empty : plain none = "" := (plain_eq_empty_iff none).mpr nofun
    simp [Says, empty, nonempty.symm]
  · simp [Says, plain, sameIgnoringCase_iff, small]

private theorem phase_eq_iff (signals : Signals) (word : String) (small : lowercase word = word)
    (nonempty : word ≠ "") :
    lowercase (signals.operationPhase.getD "") = word ↔ signals.InPhase word := by
  unfold Signals.InPhase
  rcases signals.operationPhase with _ | phase
  · have empty : lowercase "" = "" := lowercase_eq_empty_iff.mpr rfl
    simp [empty, nonempty.symm]
  · simp [sameIgnoringCase_iff, small]

private theorem knownHealth_small : ∀ word ∈ knownHealth, lowercase word = word ∧ word ≠ "" := by
  decide

private theorem plain_of_unrecognised {health : Option String} (odd : Unrecognised health) :
    plain health ≠ "" ∧ ∀ word ∈ knownHealth, plain health ≠ word := by
  refine ⟨fun empty => odd.1 ((plain_eq_empty_iff health).mp empty), fun word known same => ?_⟩
  obtain ⟨small, nonempty⟩ := knownHealth_small word known
  exact odd.2 word known ((plain_eq_iff health small nonempty).mp same)

/-! Health and synchronization. -/

private theorem synced_iff (signals : Signals) :
    plain signals.sync = "synced" ↔ Says signals.sync "synced" :=
  plain_eq_iff _ (by decide) (by decide)

private theorem outOfSync_iff (signals : Signals) :
    plain signals.sync = "outofsync" ↔ Says signals.sync "outofsync" :=
  plain_eq_iff _ (by decide) (by decide)

private theorem plain_of_said {health : Option String} {word : String} (said : Says health word)
    (known : word ∈ knownHealth) : plain health = word :=
  (plain_eq_iff health (knownHealth_small word known).1 (knownHealth_small word known).2).mpr said

/-- Some row is always selected. -/
theorem exists_row (signals : Signals) : ∃ status progress, Row signals status progress := by
  by_cases odd : Unreported signals.health ∨ Unrecognised signals.health
  · by_cases out : Says signals.sync "outofsync"
    · exact ⟨_, _, .outOfSync odd out⟩
    · rcases odd with unreported | unrecognised
      · exact ⟨_, _, .unreported unreported out⟩
      · exact ⟨_, _, .unrecognised unrecognised out⟩
  · have known : ∃ word ∈ knownHealth, Says signals.health word := by
      by_contra none_known
      refine odd (.inr ⟨fun unreported => odd (.inl unreported), fun word mem said => ?_⟩)
      exact none_known ⟨word, mem, said⟩
    obtain ⟨word, mem, said⟩ := known
    simp only [knownHealth, List.mem_cons, List.not_mem_nil, or_false] at mem
    rcases mem with rfl | rfl | rfl | rfl | rfl
    · by_cases synced : Says signals.sync "synced"
      · exact ⟨_, _, .synced said synced⟩
      · exact ⟨_, _, .unsynced said synced⟩
    · exact ⟨_, _, .progressing said⟩
    · exact ⟨_, _, .degraded said⟩
    · exact ⟨_, _, .missing said⟩
    · exact ⟨_, _, .suspended said⟩

theorem settled_of_row {signals : Signals} {status : DeploymentStatus} {progress : UInt8}
    (row : Row signals status progress) :
    (settled signals).status = status ∧ (settled signals).progress = progress := by
  cases row with
  | synced healthy synced =>
    simp [settled, plain_of_said healthy (by decide), (synced_iff signals).mpr synced]
  | unsynced healthy unsynced =>
    have other : plain signals.sync ≠ "synced" := (synced_iff signals).not.mpr unsynced
    simp [settled, plain_of_said healthy (by decide), other]
  | progressing said => simp [settled, plain_of_said said (by decide)]
  | degraded said => simp [settled, plain_of_said said (by decide)]
  | missing said => simp [settled, plain_of_said said (by decide)]
  | suspended said => simp [settled, plain_of_said said (by decide)]
  | unreported unreported inSync =>
    have empty : plain signals.health = "" := (plain_eq_empty_iff _).mpr unreported
    have other : plain signals.sync ≠ "outofsync" := (outOfSync_iff signals).not.mpr inSync
    simp [settled, empty, other]
  | unrecognised odd inSync =>
    obtain ⟨nonempty, unknown⟩ := plain_of_unrecognised odd
    have other : plain signals.sync ≠ "outofsync" := (outOfSync_iff signals).not.mpr inSync
    simp_all [settled, knownHealth]
  | outOfSync odd out =>
    have outOfSync : plain signals.sync = "outofsync" := (outOfSync_iff signals).mpr out
    rcases odd with unreported | unrecognised
    · have empty : plain signals.health = "" := (plain_eq_empty_iff _).mpr unreported
      simp [settled, empty, outOfSync]
    · obtain ⟨nonempty, unknown⟩ := plain_of_unrecognised unrecognised
      simp_all [settled, knownHealth]

/-- What health and synchronization come to is the one row of the table that they select. -/
theorem row_iff (signals : Signals) (status : DeploymentStatus) (progress : UInt8) :
    Row signals status progress ↔
      (settled signals).status = status ∧ (settled signals).progress = progress := by
  refine ⟨settled_of_row, fun ⟨sameStatus, sameProgress⟩ => ?_⟩
  obtain ⟨status', progress', row⟩ := exists_row signals
  obtain ⟨rfl, rfl⟩ := settled_of_row row
  rwa [← sameStatus, ← sameProgress]

/-! The operation. -/

private theorem not_operationFailed_of_operating {signals : Signals} (operating : signals.Operating) :
    ¬ signals.OperationFailed := by
  have one : ∀ {word other : String}, signals.InPhase word → signals.InPhase other →
      lowercase word = lowercase other := by
    rintro word other ⟨phase, reported, same⟩ ⟨phase', reported', same'⟩
    obtain rfl : phase = phase' := Option.some.inj (reported.symm.trans reported')
    exact (sameIgnoringCase_iff.mp same).symm.trans (sameIgnoringCase_iff.mp same')
  rintro (failed | error) <;> rcases operating with running | terminating
  · exact absurd (one failed running) (by decide)
  · exact absurd (one failed terminating) (by decide)
  · exact absurd (one error running) (by decide)
  · exact absurd (one error terminating) (by decide)

private theorem operating_iff (signals : Signals) :
    (lowercase (signals.operationPhase.getD "") == "running" ||
      lowercase (signals.operationPhase.getD "") == "terminating") = true ↔ signals.Operating := by
  have running := phase_eq_iff signals "running" (by decide) (by decide)
  have terminating := phase_eq_iff signals "terminating" (by decide) (by decide)
  simp [Signals.Operating, running, terminating]

private theorem operationFailed_iff (signals : Signals) :
    (lowercase (signals.operationPhase.getD "") == "failed" ||
      lowercase (signals.operationPhase.getD "") == "error") = true ↔ signals.OperationFailed := by
  have failed := phase_eq_iff signals "failed" (by decide) (by decide)
  have error := phase_eq_iff signals "error" (by decide) (by decide)
  simp [Signals.OperationFailed, failed, error]

private theorem clamp_bounds (progress : UInt8) :
    50 ≤ max 50 (min 90 progress) ∧ max 50 (min 90 progress) ≤ 90 := by
  simp only [max, min]
  grind

/-- What the operation makes of the verdict of health and synchronization: it is kept, or under way again, or
failed. -/
inductive Pass (signals : Signals) : Verdict → Prop where
  | kept : (signals.Operating → (settled signals).status = .failed) →
      (signals.OperationFailed → (settled signals).status ≠ .deploying) → Pass signals (settled signals)
  | operating {progress : UInt8} {message : String} : signals.Operating →
      (settled signals).status ≠ .failed → 50 ≤ progress → progress ≤ 90 →
      Pass signals ⟨.deploying, progress, message⟩
  | broken {message : String} : signals.OperationFailed → (settled signals).status = .deploying →
      Pass signals ⟨.failed, 0, message⟩

theorem pass_evaluate {signals : Signals} (alive : signals.deleting = false) :
    Pass signals (evaluate signals) := by
  simp only [evaluate, alive, Bool.false_eq_true, if_false]
  by_cases operating : signals.Operating
  · rw [if_pos ((operating_iff signals).mpr operating)]
    have sound := not_operationFailed_of_operating operating
    split
    · rename_i failed
      exact .kept (fun _ => failed) (fun broken => absurd broken sound)
    · rename_i unfailed
      exact .operating operating unfailed (clamp_bounds _).1 (clamp_bounds _).2
  · rw [if_neg ((operating_iff signals).not.mpr operating)]
    by_cases broken : signals.OperationFailed
    · rw [if_pos ((operationFailed_iff signals).mpr broken)]
      split
      · rename_i deploying
        exact .broken broken deploying
      · rename_i other
        exact .kept (fun running => absurd running operating) (fun _ => other)
    · rw [if_neg ((operationFailed_iff signals).not.mpr broken)]
      exact .kept (fun running => absurd running operating) (fun failed => absurd failed broken)

theorem evaluate_of_deleting {signals : Signals} (deleting : signals.deleting = true) :
    evaluate signals = .deleting := by
  simp [evaluate, deleting]

theorem evaluate_atRest {signals : Signals} (alive : signals.deleting = false) :
    evaluate signals.atRest = settled signals := by
  have small : lowercase "" = "" := by decide
  simp [evaluate, Signals.atRest, alive, settled, small]

/-! What the rows of the table have in common. -/

theorem Row.progress_eq_hundred_iff {signals : Signals} {status : DeploymentStatus} {progress : UInt8}
    (row : Row signals status progress) : progress = 100 ↔ status = .deployed := by
  cases row <;> decide

theorem Row.progress_of_failed {signals : Signals} {progress : UInt8}
    (row : Row signals .failed progress) : progress = 0 := by
  cases row <;> rfl

theorem Row.deployed_iff {signals : Signals} {status : DeploymentStatus} {progress : UInt8}
    (row : Row signals status progress) :
    status = .deployed ↔ Says signals.health "healthy" ∧ Says signals.sync "synced" := by
  constructor
  · rintro rfl
    cases row with
    | synced healthy synced => exact ⟨healthy, synced⟩
  · rintro ⟨healthy, synced⟩
    have first : Row signals .deployed 100 := .synced healthy synced
    exact (settled_of_row row).1.symm.trans (settled_of_row first).1

private theorem row_settled (signals : Signals) :
    Row signals (settled signals).status (settled signals).progress :=
  (row_iff signals _ _).mpr ⟨rfl, rfl⟩

/-! What the second pass leaves of the first. -/

namespace Pass

variable {signals : Signals} {verdict : Verdict}

theorem deployed_iff (pass : Pass signals verdict) :
    verdict.status = .deployed ↔ signals.InService := by
  have first := (row_settled signals).deployed_iff
  cases pass with
  | kept unmasked _ =>
    constructor
    · intro deployed
      obtain ⟨healthy, synced⟩ := first.mp deployed
      refine ⟨healthy, synced, fun operating => ?_⟩
      exact absurd (deployed.symm.trans (unmasked operating)) nofun
    · intro service
      exact first.mpr ⟨service.healthy, service.synced⟩
  | operating operating _ _ _ =>
    exact iff_of_false nofun fun service => service.quiet operating
  | broken _ deploying =>
    refine iff_of_false nofun fun service => ?_
    have deployed := first.mpr ⟨service.healthy, service.synced⟩
    exact absurd (deploying.symm.trans deployed) nofun

theorem complete_iff (pass : Pass signals verdict) :
    verdict.progress = 100 ↔ verdict.status = .deployed := by
  cases pass with
  | kept _ _ => exact (row_settled signals).progress_eq_hundred_iff
  | @operating progress _ _ _ _ most =>
    refine iff_of_false (fun full => ?_) nofun
    have most' : (100 : UInt8) ≤ 90 := (show progress = 100 from full) ▸ most
    exact absurd most' (by decide)
  | broken _ _ => exact iff_of_false (show (0 : UInt8) ≠ 100 by decide) nofun

theorem progress_of_failed (pass : Pass signals verdict) (failed : verdict.status = .failed) :
    verdict.progress = 0 := by
  cases pass with
  | kept _ _ =>
    have row := row_settled signals
    rw [failed] at row
    exact row.progress_of_failed
  | operating _ _ _ _ => cases failed
  | broken _ _ => rfl

theorem of_operating (pass : Pass signals verdict) (operating : signals.Operating)
    (unfailed : (settled signals).status ≠ .failed) :
    verdict.status = .deploying ∧ 50 ≤ verdict.progress ∧ verdict.progress ≤ 90 := by
  cases pass with
  | kept unmasked _ => exact absurd (unmasked operating) unfailed
  | operating _ _ least most => exact ⟨rfl, least, most⟩
  | broken broken _ => exact absurd broken (not_operationFailed_of_operating operating)

theorem eq_of_failed (pass : Pass signals verdict) (failed : (settled signals).status = .failed) :
    verdict = settled signals := by
  cases pass with
  | kept _ _ => rfl
  | operating _ unfailed _ _ => exact absurd failed unfailed
  | broken _ deploying => exact absurd (failed.symm.trans deploying) nofun

theorem ne_deploying (pass : Pass signals verdict) (broken : signals.OperationFailed) :
    verdict.status ≠ .deploying := by
  cases pass with
  | kept _ other => exact other broken
  | operating operating _ _ _ => exact absurd broken (not_operationFailed_of_operating operating)
  | broken _ _ => nofun

theorem failed_of_deploying (pass : Pass signals verdict) (broken : signals.OperationFailed)
    (deploying : (settled signals).status = .deploying) : verdict.status = .failed := by
  cases pass with
  | kept _ other => exact absurd deploying (other broken)
  | operating operating _ _ _ => exact absurd broken (not_operationFailed_of_operating operating)
  | broken _ _ => rfl

theorem eq_of_quiet (pass : Pass signals verdict) (quiet : ¬ signals.Operating)
    (other : signals.OperationFailed → (settled signals).status ≠ .deploying) :
    verdict = settled signals := by
  cases pass with
  | kept _ _ => rfl
  | operating operating _ _ _ => exact absurd operating quiet
  | broken broken deploying => exact absurd deploying (other broken)

end Pass

/-! The whole verdict. -/

/-- The table of applications and what an operation may change about it. -/
structure Realises (signals : Signals) : Prop where
  deleting : signals.deleting = true → evaluate signals = .deleting
  table : signals.deleting = false → ∀ status progress, Row signals status progress ↔
    (evaluate signals.atRest).status = status ∧ (evaluate signals.atRest).progress = progress
  deployed : (evaluate signals).status = .deployed ↔ signals.deleting = false ∧ signals.InService
  complete : (evaluate signals).progress = 100 ↔ (evaluate signals).status = .deployed
  failed : (evaluate signals).status = .failed → (evaluate signals).progress = 0
  operating : signals.deleting = false → signals.Operating → (evaluate signals.atRest).status ≠ .failed →
    (evaluate signals).status = .deploying ∧
      50 ≤ (evaluate signals).progress ∧ (evaluate signals).progress ≤ 90
  unmasked : signals.Operating → (evaluate signals.atRest).status = .failed →
    evaluate signals = evaluate signals.atRest
  operationFailed : signals.OperationFailed → (evaluate signals).status ≠ .deploying
  broken : signals.OperationFailed → (evaluate signals.atRest).status = .deploying →
    (evaluate signals).status = .failed
  kept : signals.OperationFailed → (evaluate signals.atRest).status ≠ .deploying →
    evaluate signals = evaluate signals.atRest
  idle : ¬ signals.Operating → ¬ signals.OperationFailed → evaluate signals = evaluate signals.atRest

private theorem evaluate_atRest_of_deleting {signals : Signals} (deleting : signals.deleting = true) :
    evaluate signals.atRest = .deleting :=
  evaluate_of_deleting deleting

private theorem realises_of_deleting {signals : Signals} (deleting : signals.deleting = true) :
    Realises signals where
  deleting := evaluate_of_deleting
  table alive := absurd (deleting.symm.trans alive) nofun
  deployed := by simp [evaluate_of_deleting deleting, Verdict.deleting, deleting]
  complete := by simp [evaluate_of_deleting deleting, Verdict.deleting]
  failed := by simp [evaluate_of_deleting deleting, Verdict.deleting]
  operating alive := absurd (deleting.symm.trans alive) nofun
  unmasked _ _ := (evaluate_of_deleting deleting).trans (evaluate_atRest_of_deleting deleting).symm
  operationFailed _ := by simp [evaluate_of_deleting deleting, Verdict.deleting]
  broken _ := by simp [evaluate_atRest_of_deleting deleting, Verdict.deleting]
  kept _ _ := (evaluate_of_deleting deleting).trans (evaluate_atRest_of_deleting deleting).symm
  idle _ _ := (evaluate_of_deleting deleting).trans (evaluate_atRest_of_deleting deleting).symm

private theorem realises_of_alive {signals : Signals} (alive : signals.deleting = false) :
    Realises signals := by
  have pass := pass_evaluate alive
  have rest := evaluate_atRest alive
  constructor
  case deleting => exact evaluate_of_deleting
  case table => exact fun _ status progress => rest ▸ row_iff signals status progress
  case deployed => simpa [alive] using pass.deployed_iff
  case complete => exact pass.complete_iff
  case failed => exact pass.progress_of_failed
  case operating => exact fun _ operating unfailed => pass.of_operating operating (rest ▸ unfailed)
  case unmasked => exact fun _ failed => (pass.eq_of_failed (rest ▸ failed)).trans rest.symm
  case operationFailed => exact pass.ne_deploying
  case broken => exact fun broken deploying => pass.failed_of_deploying broken (rest ▸ deploying)
  case kept =>
    intro broken other
    have quiet : ¬ signals.Operating := fun operating =>
      not_operationFailed_of_operating operating broken
    exact (pass.eq_of_quiet quiet fun _ => rest ▸ other).trans rest.symm
  case idle =>
    intro quiet sound
    exact (pass.eq_of_quiet quiet fun broken => absurd broken sound).trans rest.symm

/-- Every set of signals has the verdict of the table, with what the operation changes about it and no more. -/
theorem evaluate_realises_table (signals : Signals) : Realises signals := by
  rcases alive : signals.deleting with _ | _
  · exact realises_of_alive alive
  · exact realises_of_deleting alive

/-- A running operation keeps a healthy application in the state of being deployed, and short of done. -/
example : let signals : Signals := ⟨some " HEALTHY\n", none, some "Synced", some "Running", none, false⟩
    (evaluate signals).status = .deploying ∧ (evaluate signals).progress = 90 := by
  decide

end DeploymentGateway.Health.Application
