import DeploymentGateway.Rehearsal.Stage
import DeploymentGateway.Release.Wire
/-!
The journal of a rehearsal as values: for everything that reached a back end an array with the word
for it and what was asked.
-/

set_option autoImplicit false

namespace DeploymentGateway

namespace Call

/-- The words for calls in a journal. Calls of a release manager are told from those of a cluster. -/
def journalWord (c : Call) : String :=
  match c, c.mark? with
  | _, none => ""
  | _, some (word, target) => if target == "releases" then "helm " ++ word else word

/-- What is asked in a call. -/
def details : Call → List Json
  | .get kind «namespace» name => [.string kind.plural, .string «namespace», .string name]
  | .list kind «namespace» selector =>
    [.string kind.plural, .ofText? «namespace», .ofText? selector]
  | .create kind «namespace» object => [.string kind.plural, .string «namespace», object]
  | .update kind «namespace» object => [.string kind.plural, .string «namespace», object]
  | .delete kind «namespace» name => [.string kind.plural, .string «namespace», .string name]
  | .podLogs «namespace» selector container tailLines =>
    [.string «namespace», .string selector, .ofText? container,
      .ofOption (fun n => .ofInt n.toInt) tailLines]
  | .install wanted => [wanted.toJson]
  | .upgrade wanted => [wanted.toJson]
  | .uninstall «namespace» name => [.string «namespace», .string name]
  | .rollback «namespace» name revision =>
    [.string «namespace», .string name, .ofInt revision.toInt]
  | .releaseStatus «namespace» name => [.string «namespace», .string name]
  | .releaseList «namespace» selector => [.ofText? «namespace», .ofText? selector]
  | .releaseHistory «namespace» name => [.string «namespace», .string name]
  | .ping | .releaseVersion | .checkpoint | .connect _ | .request _ => []

end Call

/-- An entry of a journal. -/
def Rehearsal.Entry.toJson : Rehearsal.Entry → Json
  | .call c => .array (.string c.journalWord :: c.details)
  | .setup backend => .array [.string "connect", .string backend]

end DeploymentGateway
