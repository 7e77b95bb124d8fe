import DeploymentGateway.Json.Reader
import DeploymentGateway.Model.Wire
/-!
Objects as the API of a cluster types them. The metadata of an object has known fields of known types;
others are dropped, and times keep whole seconds. All else of an object passes as it is.
-/

set_option autoImplicit false

namespace DeploymentGateway.Cluster

open Json (Reader Record)

/-- A field of a typed record: its name, its type, and what stands for it where it is missing or null.
Without that the field is left out. -/
structure TypedField where
  name : String
  type : Reader Json
  absent : Option Json

namespace TypedField

/-- A field that is left out where it has no value. -/
def optional (name : String) (type : Reader Json) : TypedField :=
  ⟨name, type, none⟩

/-- A text that is empty where it has no value. -/
def text (name : String) : TypedField :=
  ⟨name, Reader.convert Reader.text fun s => some (.string s), some (.string "")⟩

/-- The field of an object with a value that was found, if it has any. -/
def shown (field : TypedField) (found : Option Json) : List (String × Json) :=
  match found.or field.absent with
  | some value => [(field.name, value)]
  | none => []

/-- The record that some fields make. -/
def recordOf : List TypedField → Record (List (String × Json))
  | [] => Record.pure []
  | field :: rest =>
    (fun found others => field.shown found ++ others) <$>
      Record.optional field.name field.type <*> recordOf rest

/-- An object with some fields; it is not to be written as an array. -/
def objectOf (fields : List TypedField) : Reader Json := fun depth document =>
  match document with
  | .object _ _ => ((recordOf fields).reader depth document).map Json.ofPairs
  | other => Reader.refuse other

end TypedField

namespace Metadata

open TypedField

private def string : Reader Json :=
  Reader.convert Reader.text fun s => some (.string s)

private def truth : Reader Json :=
  Reader.convert Reader.bool fun b => some (.bool b)

private def count : Reader Json :=
  Reader.convert Reader.int64 fun n => some (.ofInt n.toInt)

private def time : Reader Json :=
  Reader.convert Time.Instant.reader fun t => some t.wholeSecond.toJson

private def strings : Reader Json :=
  Reader.convert Labels.reader fun labels => some labels.toJson

private def listOf (item : Reader Json) : Reader Json :=
  Reader.convert (Reader.list item) fun items => some (.array items)

/-- An entry of the list of who manages which fields. -/
private def managedFields : Reader Json :=
  objectOf [
    optional "apiVersion" string, optional "fieldsType" string, optional "fieldsV1" Reader.json,
    optional "manager" string, optional "operation" string, optional "subresource" string,
    optional "time" time]

/-- A reference to an owner. -/
private def ownerReference : Reader Json :=
  objectOf [
    text "apiVersion", optional "blockOwnerDeletion" truth, optional "controller" truth,
    text "kind", text "name", text "uid"]

/-- The metadata of an object. -/
def reader : Reader Json :=
  objectOf [
    optional "annotations" strings, optional "creationTimestamp" time,
    optional "deletionGracePeriodSeconds" count, optional "deletionTimestamp" time,
    optional "finalizers" (listOf string), optional "generateName" string,
    optional "generation" count, optional "labels" strings,
    optional "managedFields" (listOf managedFields), optional "name" string,
    optional "namespace" string, optional "ownerReferences" (listOf ownerReference),
    optional "resourceVersion" string, optional "selfLink" string, optional "uid" string]

end Metadata

/-- An object as the API types it, unless its metadata is not well typed. An API version without a kind
says nothing, nor does a kind without an API version. -/
def typedObject? (object : Json) : Option Json := do
  let fields ← object.object?
  let metadata ← match Fields.get? "metadata" fields with
    | some metadata => (Metadata.reader.run metadata).toOption
    | none => some (.object [])
  let isText (name : String) : Bool := ((Fields.get? name fields).bind Json.string?).isSome
  let fields :=
    if isText "apiVersion" && isText "kind" then fields
    else Fields.erase "apiVersion" (Fields.erase "kind" fields)
  return .object (Fields.insert "metadata" metadata fields)

end DeploymentGateway.Cluster
