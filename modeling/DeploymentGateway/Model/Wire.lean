import DeploymentGateway.Json.Reader
import DeploymentGateway.Model.Package
import DeploymentGateway.Time.Printer
import DeploymentGateway.Time.Reader
/-!
The wire form of the domain's records: how each is written as JSON and read back.
-/

set_option autoImplicit false

namespace DeploymentGateway

open Json (Reader Record)

/-- Labels as fields of an object. -/
def Labels.toFields (labels : Labels) : List (String × Json) :=
  labels.toList.map fun (name, value) => (name, .string value)

/-- A map of texts as an object. -/
def Labels.toJson (labels : Labels) : Json :=
  .object labels.toFields

/-- A map of values as an object. -/
def Extensions.toJson (values : Extensions) : Json :=
  .object values.toList

/-- An instant as a text. -/
def Time.Instant.toJson (t : Time.Instant) : Json :=
  .string t.text

/-- An optional value, or null. -/
def Json.ofOption {α : Type} (encode : α → Json) : Option α → Json
  | some a => encode a
  | none => .null

/-- An instant from a text in the lenient form. -/
def Time.Instant.reader : Reader Time.Instant :=
  Reader.convert Reader.text Time.readLenient?

namespace DeploymentStatus

def toJson (status : DeploymentStatus) : Json := .string status.word

def reader : Reader DeploymentStatus := Reader.word ofWord?

end DeploymentStatus

namespace PackageType

def toJson (type : PackageType) : Json := .string type.word

def reader : Reader PackageType := Reader.word ofWord?

end PackageType

namespace Capability

def toJson (capability : Capability) : Json := .string capability.word

def reader : Reader Capability := Reader.word ofWord?

end Capability

/-- Labels from an object of texts. -/
def Labels.reader : Reader Labels := Reader.map Reader.text

/-- Values from an object. -/
def Extensions.reader : Reader Extensions := Reader.map Reader.json

namespace Deployment

def toJson (d : Deployment) : Json :=
  .ofPairs [
    ("id", .string d.id), ("name", .string d.name), ("package_id", .string d.packageId),
    ("namespace", .string d.namespace), ("status", d.status.toJson),
    ("version", .ofInt d.version.toInt), ("description", .string d.description),
    ("created_at", d.createdAt.toJson), ("updated_at", d.updatedAt.toJson),
    ("labels", d.labels.toJson), ("extensions", d.extensions.toJson)]

def record : Record Deployment :=
  Deployment.mk <$> .required "id" Reader.text <*> .required "name" Reader.text <*>
    .required "package_id" Reader.text <*> .required "namespace" Reader.text <*>
    .required "status" DeploymentStatus.reader <*> .required "version" Reader.int64 <*>
    .required "description" Reader.text <*> .required "created_at" Time.Instant.reader <*>
    .required "updated_at" Time.Instant.reader <*> .withDefault "labels" Labels.reader .empty <*>
    .withDefault "extensions" Extensions.reader .empty

end Deployment

namespace DeploymentRequest

def toJson (r : DeploymentRequest) : Json :=
  .ofPairs [
    ("name", .string r.name), ("namespace", .string r.namespace),
    ("package_id", .ofText? r.packageId), ("values", r.values.toJson),
    ("labels", r.labels.toJson), ("extensions", r.extensions.toJson)]

def record : Record DeploymentRequest :=
  DeploymentRequest.mk <$> .required "name" Reader.text <*> .required "namespace" Reader.text <*>
    .optionalAnywhere "package_id" Reader.text <*>
    .withDefault "values" Extensions.reader .empty <*>
    .withDefault "labels" Labels.reader .empty <*>
    .withDefault "extensions" Extensions.reader .empty

end DeploymentRequest

namespace DeploymentUpdate

def toJson (u : DeploymentUpdate) : Json :=
  .ofPairs [
    ("package_id", .ofText? u.packageId), ("values", u.values.toJson),
    ("labels", u.labels.toJson), ("extensions", u.extensions.toJson)]

def record : Record DeploymentUpdate :=
  DeploymentUpdate.mk <$> .optionalAnywhere "package_id" Reader.text <*>
    .withDefault "values" Extensions.reader .empty <*>
    .withDefault "labels" Labels.reader .empty <*>
    .withDefault "extensions" Extensions.reader .empty

end DeploymentUpdate

namespace Condition

def toJson (c : Condition) : Json :=
  .ofPairs [
    ("type", .string c.type), ("status", .string c.status), ("reason", .string c.reason),
    ("message", .string c.message),
    ("last_transition_time", .ofOption Time.Instant.toJson c.lastTransition)]

def record : Record Condition :=
  Condition.mk <$> .required "type" Reader.text <*> .required "status" Reader.text <*>
    .withDefault "reason" Reader.text "" <*> .withDefault "message" Reader.text "" <*>
    .optional "last_transition_time" Time.Instant.reader

end Condition

namespace StatusDetail

def toJson (d : StatusDetail) : Json :=
  .ofPairs [
    ("id", .string d.id), ("status", d.status.toJson), ("message", .string d.message),
    ("progress", .ofInt d.progress.toNat), ("conditions", .array (d.conditions.map Condition.toJson)),
    ("updated_at", d.updatedAt.toJson), ("extensions", d.extensions.toJson)]

def record : Record StatusDetail :=
  StatusDetail.mk <$> .required "id" Reader.text <*>
    .required "status" DeploymentStatus.reader <*> .required "message" Reader.text <*>
    .required "progress" Reader.uint8 <*>
    .required "conditions" (Reader.list Condition.record.reader) <*>
    .required "updated_at" Time.Instant.reader <*>
    .withDefault "extensions" Extensions.reader .empty

end StatusDetail

namespace Revision

def toJson (r : Revision) : Json :=
  .ofPairs [
    ("revision", .ofInt r.revision.toInt), ("version", .string r.version),
    ("deployed_at", r.deployedAt.toJson), ("status", r.status.toJson),
    ("description", .string r.description)]

def record : Record Revision :=
  Revision.mk <$> .required "revision" Reader.int64 <*> .required "version" Reader.text <*>
    .required "deployed_at" Time.Instant.reader <*>
    .required "status" DeploymentStatus.reader <*> .required "description" Reader.text

end Revision

namespace History

def toJson (h : History) : Json :=
  .ofPairs [
    ("deployment_id", .string h.deploymentId), ("revisions", .array (h.revisions.map Revision.toJson))]

def record : Record History :=
  History.mk <$> .required "deployment_id" Reader.text <*>
    .required "revisions" (Reader.list Revision.record.reader)

end History

namespace LogOptions

def toJson (o : LogOptions) : Json :=
  .ofPairs [
    ("tail_lines", .ofOption (fun n => .ofInt n.toInt) o.tailLines),
    ("container", .ofText? o.container)]

def record : Record LogOptions :=
  LogOptions.mk <$> .optional "tail_lines" Reader.int64 <*> .optional "container" Reader.text

end LogOptions

namespace LogEntry

def toJson (e : LogEntry) : Json :=
  .ofPairs [
    ("pod", .string e.pod), ("container", .ofText? e.container),
    ("lines", .array (e.lines.map .string))]

def record : Record LogEntry :=
  LogEntry.mk <$> .required "pod" Reader.text <*> .optional "container" Reader.text <*>
    .required "lines" (Reader.list Reader.text)

end LogEntry

namespace DeploymentLogs

def toJson (l : DeploymentLogs) : Json :=
  .ofPairs [
    ("deployment_id", .string l.deploymentId), ("entries", .array (l.entries.map LogEntry.toJson))]

def record : Record DeploymentLogs :=
  DeploymentLogs.mk <$> .required "deployment_id" Reader.text <*>
    .required "entries" (Reader.list LogEntry.record.reader)

end DeploymentLogs

namespace Package

def toJson (p : Package) : Json :=
  .ofPairs [
    ("id", .string p.id), ("name", .string p.name), ("version", .string p.version),
    ("package_type", p.type.toJson), ("description", .string p.description),
    ("uploaded_at", p.uploadedAt.toJson), ("extensions", p.extensions.toJson)]

def record : Record Package :=
  Package.mk <$> .required "id" Reader.text <*> .required "name" Reader.text <*>
    .required "version" Reader.text <*> .required "package_type" PackageType.reader <*>
    .required "description" Reader.text <*> .required "uploaded_at" Time.Instant.reader <*>
    .withDefault "extensions" Extensions.reader .empty

end Package

namespace PackageUpload

def toJson (u : PackageUpload) : Json :=
  .ofPairs [
    ("name", .string u.name), ("reference", .string u.reference),
    ("version", .ofText? u.version), ("extensions", u.extensions.toJson)]

def record : Record PackageUpload :=
  PackageUpload.mk <$> .required "name" Reader.text <*> .required "reference" Reader.text <*>
    .optionalAnywhere "version" Reader.text <*>
    .withDefault "extensions" Extensions.reader .empty

end PackageUpload

namespace Filter

def toJson (f : Filter) : Json :=
  .ofPairs [
    ("namespace", .ofText? f.namespace), ("status", .ofOption DeploymentStatus.toJson f.status),
    ("labels", f.labels.toJson), ("extensions", f.extensions.toJson),
    ("limit", .ofInt f.limit.toNat), ("offset", .ofInt f.offset.toNat)]

def record : Record Filter :=
  Filter.mk <$> .optionalAnywhere "namespace" Reader.text <*>
    .optionalAnywhere "status" DeploymentStatus.reader <*>
    .withDefault "labels" Labels.reader .empty <*>
    .withDefault "extensions" Extensions.reader .empty <*>
    .withDefault "limit" Reader.uint64 0 <*> .withDefault "offset" Reader.uint64 0

end Filter

end DeploymentGateway
