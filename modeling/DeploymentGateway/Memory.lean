import DeploymentGateway.Cluster.Store
import DeploymentGateway.Program
import DeploymentGateway.Release.Store
/-!
Back ends in memory: a cluster and a release manager that answer every call at once and never fail
on their own. There is no application server among them.
-/

set_option autoImplicit false

namespace DeploymentGateway

/-- A cluster and a release manager in memory. -/
structure Memory where
  cluster : Cluster.Store
  releases : Release.Store

namespace Memory

/-- Back ends without objects and releases. -/
def empty : Memory :=
  ⟨.empty, .empty⟩

/-- The memory with another cluster, beside a reply. -/
def withCluster {α : Type} (memory : Memory) (reply : α × Cluster.Store) : α × Memory :=
  (reply.1, { memory with cluster := reply.2 })

/-- The memory with another release manager, beside a reply. -/
def withReleases {α : Type} (memory : Memory) (reply : α × Release.Store) : α × Memory :=
  (reply.1, { memory with releases := reply.2 })

/-- The reply to a call at an instant. Callers are never cancelled here, and every client is there. -/
def answer (now : Time.Instant) (c : Call) (memory : Memory) : c.Reply × Memory :=
  match c with
  | .checkpoint => (.ok (), memory)
  | .connect _ => (.ok (), memory)
  | .get kind «namespace» name => (memory.cluster.get kind «namespace» name, memory)
  | .list kind «namespace» selector => (.ok (memory.cluster.list kind «namespace» selector), memory)
  | .create kind «namespace» object =>
    memory.withCluster (memory.cluster.create now kind «namespace» object)
  | .update kind «namespace» object =>
    memory.withCluster (memory.cluster.update kind «namespace» object)
  | .delete kind «namespace» name =>
    memory.withCluster (memory.cluster.delete kind «namespace» name)
  | .podLogs «namespace» selector _ _ => (.ok (memory.cluster.podLogs «namespace» selector), memory)
  | .ping => (.ok (), memory)
  | .install request => memory.withReleases (memory.releases.install now request)
  | .upgrade request => memory.withReleases (memory.releases.upgrade now request)
  | .uninstall «namespace» name => memory.withReleases (memory.releases.uninstall «namespace» name)
  | .rollback «namespace» name revision =>
    memory.withReleases (memory.releases.rollback «namespace» name revision)
  | .releaseStatus «namespace» name => (memory.releases.status «namespace» name, memory)
  | .releaseList «namespace» _ => (.ok (memory.releases.list «namespace»), memory)
  | .releaseHistory «namespace» name => (memory.releases.history «namespace» name, memory)
  | .releaseVersion => (.ok Release.Store.version, memory)
  | .request _ => (.error .unreachable, memory)

end Memory

namespace Program

/-- Run a program on back ends in memory, where it always ends. -/
def runInMemory {α : Type} (now : Time.Instant) : Program α → Memory → Outcome α × Memory
  | done outcome, memory => (outcome, memory)
  | call c next, memory =>
    let (reply, memory) := memory.answer now c
    runInMemory now (next reply) memory

end Program

end DeploymentGateway
