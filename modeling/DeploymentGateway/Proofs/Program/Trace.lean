import DeploymentGateway.Proofs.Program.Scope
import Mathlib.Data.List.Infix
/-!
Ways through programs that are put together. A way through a program that continues another goes through the
first and then through the second, so what is changed after everything that only reads is changed by what comes
after it.
-/

set_option autoImplicit false

namespace DeploymentGateway

/-- Where something occurs once, the ends of a list that begin with it are one. -/
theorem suffix_iff_of_once {α : Type} {x : α} {front rest tail : List α} (before : x ∉ front)
    (after : x ∉ rest) : x :: tail <:+ front ++ x :: rest ↔ rest = tail := by
  constructor
  · rintro ⟨other, same⟩
    exact ((List.append_cons_inj_of_notMem before after).mp same.symm).2.2
  · rintro rfl
    exact List.suffix_append front _

namespace Program

variable {α β : Type} {exchanges : List AnsweredCall}

theorem trace_done_iff {outcome ended : Outcome α} :
    (done outcome).Trace exchanges ended ↔ exchanges = [] ∧ ended = outcome := by
  constructor
  · rintro ⟨_⟩
    exact ⟨rfl, rfl⟩
  · rintro ⟨rfl, rfl⟩
    exact .done _

theorem trace_call_iff {c : Call} {next : c.Reply → Program α} {outcome : Outcome α} :
    (call c next).Trace exchanges outcome ↔
      ∃ reply rest, exchanges = ⟨c, reply⟩ :: rest ∧ (next reply).Trace rest outcome := by
  constructor
  · rintro (_ | ⟨reply, rest⟩)
    exact ⟨reply, _, rfl, rest⟩
  · rintro ⟨reply, rest, rfl, trace⟩
    exact .call reply trace

/-- A way through a program and what continues it ends with the first in its failure, or goes on with its
result. -/
theorem trace_bind_iff {p : Program α} {f : α → Program β} {outcome : Outcome β} :
    (p >>= f).Trace exchanges outcome ↔
      (∃ failure, p.Trace exchanges (.error failure) ∧ outcome = .error failure) ∨
        ∃ a first second, p.Trace first (.ok a) ∧ (f a).Trace second outcome ∧
          exchanges = first ++ second := by
  induction p generalizing exchanges with
  | done ended =>
    rcases ended with failure | a
    · simp [trace_done_iff]
    · simp [trace_done_iff]
  | call c next ih =>
    simp only [call_bind, trace_call_iff, ih]
    constructor
    · rintro ⟨reply, rest, rfl, ⟨failure, trace, rfl⟩ | ⟨a, first, second, before, after, rfl⟩⟩
      · exact .inl ⟨failure, ⟨reply, rest, rfl, trace⟩, rfl⟩
      · exact .inr ⟨a, ⟨c, reply⟩ :: first, second, ⟨reply, first, rfl, before⟩, after, rfl⟩
    · rintro (⟨failure, ⟨reply, rest, rfl, trace⟩, rfl⟩ |
        ⟨a, _, second, ⟨reply, first, rfl, before⟩, after, rfl⟩)
      · exact ⟨reply, rest, rfl, .inl ⟨failure, trace, rfl⟩⟩
      · exact ⟨reply, first ++ second, rfl, .inr ⟨a, first, second, before, after, rfl⟩⟩

/-- A way to a result goes through both. -/
theorem trace_bind_ok_iff {p : Program α} {f : α → Program β} {b : β} :
    (p >>= f).Trace exchanges (.ok b) ↔
      ∃ a first second, p.Trace first (.ok a) ∧ (f a).Trace second (.ok b) ∧
        exchanges = first ++ second := by
  rw [trace_bind_iff]
  refine or_iff_right ?_
  rintro ⟨failure, -, ⟨⟩⟩

/-- After a check that makes no call, something is only sent where the check has passed. -/
theorem passed_of_sent {checked : Outcome α} {f : α → Program β} {outcome : Outcome β}
    (trace : (ofOutcome checked >>= f).Trace exchanges outcome) {exchange : AnsweredCall}
    (sent : exchange ∈ exchanges) : ∃ a, checked = .ok a ∧ (f a).Trace exchanges outcome := by
  rcases checked with failure | a
  · obtain ⟨rfl, -⟩ := trace_done_iff.mp trace
    exact absurd sent List.not_mem_nil
  · exact ⟨a, rfl, trace⟩

theorem ReadOnly.mutates_of_trace {p : Program α} (reads : p.ReadOnly) {outcome : Outcome α}
    (trace : p.Trace exchanges outcome) : ∀ exchange ∈ exchanges, exchange.1.mutates = false := by
  induction trace with
  | done outcome => exact List.forall_mem_nil _
  | call reply _ ih => exact List.forall_mem_cons.mpr ⟨reads.1, ih (reads.2 reply)⟩

theorem SparesReleases.movesReleases_of_trace {p : Program α} (spares : p.SparesReleases)
    {outcome : Outcome α} (trace : p.Trace exchanges outcome) :
    ∀ exchange ∈ exchanges, exchange.1.movesReleases = false := by
  induction trace with
  | done outcome => exact List.forall_mem_nil _
  | call reply _ ih => exact List.forall_mem_cons.mpr ⟨spares.1, ih (spares.2 reply)⟩

/-- What may change something comes after all that only reads, and goes on with what was read. -/
theorem ReadOnly.change_after {p : Program α} {f : α → Program β} (reads : p.ReadOnly)
    {outcome : Outcome β} (trace : (p >>= f).Trace exchanges outcome) {exchange : AnsweredCall}
    (sent : exchange ∈ exchanges) (mutates : exchange.1.mutates = true) :
    ∃ a first second, p.Trace first (.ok a) ∧ (f a).Trace second outcome ∧
      exchanges = first ++ second ∧ exchange ∈ second := by
  have unsent : ∀ {ended : Outcome α} {first : List AnsweredCall}, p.Trace first ended →
      exchange ∉ first := by
    intro ended first before mem
    have unchanging := reads.mutates_of_trace before exchange mem
    exact Bool.false_ne_true (unchanging.symm.trans mutates)
  rcases trace_bind_iff.mp trace with ⟨failure, before, -⟩ | ⟨a, first, second, before, after, rfl⟩
  · exact absurd sent (unsent before)
  · have later := (List.mem_append.mp sent).resolve_left (unsent before)
    exact ⟨a, first, second, before, after, rfl, later⟩

end Program

end DeploymentGateway
