import GridOperator.Kubernetes.Shape

/-!
# Shapes: metadata, selectors and references
-/

namespace GridOperator.Kubernetes.Shape

def texts : Shape := .list .text

def textMap : Shape := .map .text

def quantities : Shape := .map .quantity

def managedFieldsEntry : Shape := .object [
  opt "apiVersion" .text, opt "fieldsType" .text, opt "fieldsV1" .anything, opt "manager" .text,
  opt "operation" .text, opt "subresource" .text, opt "time" .time]

def ownerReference : Shape := .object [
  req "apiVersion" .text, opt "blockOwnerDeletion" .flag, opt "controller" .flag,
  req "kind" .text, req "name" .text, req "uid" .text]

def objectMeta : Shape := .object [
  opt "annotations" textMap, opt "creationTimestamp" .time,
  opt "deletionGracePeriodSeconds" .int64, opt "deletionTimestamp" .time,
  opt "finalizers" texts, opt "generateName" .text, opt "generation" .int64,
  opt "labels" textMap, opt "managedFields" (.list managedFieldsEntry), opt "name" .text,
  opt "namespace" .text, opt "ownerReferences" (.list ownerReference),
  opt "resourceVersion" .text, opt "selfLink" .text, opt "uid" .text]

def selectorRequirement : Shape := .object [
  req "key" .text, req "operator" .text, opt "values" texts]

def labelSelector : Shape := .object [
  opt "matchExpressions" (.list selectorRequirement), opt "matchLabels" textMap]

def localReference : Shape := .object [req "name" .text]

def objectReference : Shape := .object [
  opt "apiVersion" .text, opt "fieldPath" .text, opt "kind" .text, opt "name" .text,
  opt "namespace" .text, opt "resourceVersion" .text, opt "uid" .text]

/-- A condition of an object, with the time of its last change and a reason. -/
def condition : Shape := .object [
  req "lastTransitionTime" .time, req "message" .text, opt "observedGeneration" .int64,
  req "reason" .text, req "status" .text, req "type" .text]

end GridOperator.Kubernetes.Shape
