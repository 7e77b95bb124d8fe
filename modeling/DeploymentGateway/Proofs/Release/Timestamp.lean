import DeploymentGateway.Proofs.Time.Written
import DeploymentGateway.Release.Document
/-!
When a release was deployed, according to a listing, to its history and to its status document. These write the
time in different forms, and all of them are read as the instant that was meant.
-/

set_option autoImplicit false

namespace DeploymentGateway.Release

open Time ReleaseRevision

/-- The text at a path is an instant in one of the forms of the release manager. -/
def Dates (t : Instant) (value : Json) (path : Json.Path) : Prop :=
  ∃ text, value.string?At path = some text ∧ Written t text

theorem printedTimeAt_of_dates {t : Instant} {value : Json} {path : Json.Path} (dates : Dates t value path) :
    printedTimeAt value path = some t := by
  obtain ⟨text, found, written⟩ := dates
  rw [printedTimeAt, found, Option.bind_some, readRelease?_of_written written]

/-- However an instant is written, it is the one that listing, history and status report. -/
theorem lastDeployed_of_written (t : Instant) :
    (∀ text, Written t text → readRelease? text = some t) ∧
    (∀ row, Dates t row ["updated"] → (ofListRow row).lastDeployed = some t ∧
      ∀ name home, (ofHistoryRow name home row).lastDeployed = some t) ∧
    ∀ doc, doc.stringAt ["name"] ≠ "" → Dates t doc ["info", "last_deployed"] →
      ∃ revision, ofDocument doc = .ok revision ∧ revision.lastDeployed = some t := by
  refine ⟨fun text => readRelease?_of_written, fun row dates => ?_, fun doc named dates => ?_⟩
  · have read := printedTimeAt_of_dates dates
    exact ⟨read, fun name home => read⟩
  · have some_name : ¬ (doc.stringAt ["name"]).isEmpty = true := by simpa using named
    rw [ofDocument]
    simp only [some_name]
    exact ⟨_, rfl, printedTimeAt_of_dates dates⟩

/-- Half a second after half past ten on the last evening of a year. -/
def lastEvening : Instant :=
  ⟨1704061800, 500000000⟩

/-- A zone in which the next year has begun by then. -/
def halfPastFive : Zone :=
  ⟨false, 5, 30, by decide, by decide⟩

/-- The status document of a release that was deployed then. -/
def eveningStatus : Json :=
  .ofPairs [("name", .string "shop"),
    ("info", .ofPairs [("last_deployed", .string "2024-01-01T04:00:00.500+05:30")])]

/-- What is written that evening: local time in the listing and in the status, universal time in the history. -/
theorem lastDeployed_of_written_lastEvening :
    readRelease? "2024-01-01 04:00:00.5 +0530 IST" = some lastEvening ∧
      (ofListRow (.ofPairs [("updated", .string "2024-01-01 04:00:00.5 +0530 IST")])).lastDeployed =
        some lastEvening ∧
      (ofHistoryRow "shop" "web" (.ofPairs [("updated", .string "2023-12-31T22:30:00.50Z")])).lastDeployed =
        some lastEvening ∧
      ∃ revision, ofDocument eveningStatus = .ok revision ∧ revision.lastDeployed = some lastEvening := by
  obtain ⟨reads, rows, documents⟩ := lastDeployed_of_written lastEvening
  have here : lastEvening.Ordinary := ⟨by decide +kernel, .inl (by decide)⟩
  have there : (lastEvening.ahead halfPastFive.seconds).Ordinary := ⟨by decide +kernel, .inl (by decide)⟩
  have listed : Written lastEvening "2024-01-01 04:00:00.5 +0530 IST" := by
    have text : lastEvening.listedText halfPastFive "IST" = "2024-01-01 04:00:00.5 +0530 IST" := by decide +kernel
    exact text ▸ .listed halfPastFive "IST" there
  have past : Written lastEvening "2023-12-31T22:30:00.50Z" := by
    have text : lastEvening.stampTo 'T' 2 ++ String.singleton 'Z' = "2023-12-31T22:30:00.50Z" := by decide +kernel
    exact text ▸ .universal (.inl rfl) (.inl rfl) (by decide +kernel) (by decide) here
  have status : Written lastEvening "2024-01-01T04:00:00.500+05:30" := by
    have text : (lastEvening.ahead halfPastFive.seconds).stampTo 'T' 3 ++ halfPastFive.text ":" =
        "2024-01-01T04:00:00.500+05:30" := by decide +kernel
    exact text ▸ .zoned halfPastFive (.inl rfl) (by decide +kernel) (by decide) there
  exact ⟨reads _ listed, (rows _ ⟨_, rfl, listed⟩).1, (rows _ ⟨_, rfl, past⟩).2 "shop" "web",
    documents eveningStatus (by decide +kernel) ⟨_, rfl, status⟩⟩

end DeploymentGateway.Release
