import GridOperator.Kubernetes.Shape.Meta

/-!
# Shapes: resources and placement of pods
-/

namespace GridOperator.Kubernetes.Shape

def resourceRequirements : Shape := .object [
  opt "claims" (.list (.object [req "name" .text, opt "request" .text])),
  opt "limits" quantities, opt "requests" quantities]

def nodeSelectorTerm : Shape := .object [
  opt "matchExpressions" (.list selectorRequirement),
  opt "matchFields" (.list selectorRequirement)]

def nodeAffinity : Shape := .object [
  opt "preferredDuringSchedulingIgnoredDuringExecution"
    (.list (.object [req "preference" nodeSelectorTerm, req "weight" .int32])),
  opt "requiredDuringSchedulingIgnoredDuringExecution"
    (.object [req "nodeSelectorTerms" (.list nodeSelectorTerm)])]

def podAffinityTerm : Shape := .object [
  opt "labelSelector" labelSelector, opt "matchLabelKeys" texts,
  opt "mismatchLabelKeys" texts, opt "namespaceSelector" labelSelector,
  opt "namespaces" texts, req "topologyKey" .text]

def podAffinity : Shape := .object [
  opt "preferredDuringSchedulingIgnoredDuringExecution"
    (.list (.object [req "podAffinityTerm" podAffinityTerm, req "weight" .int32])),
  opt "requiredDuringSchedulingIgnoredDuringExecution" (.list podAffinityTerm)]

def affinity : Shape := .object [
  opt "nodeAffinity" nodeAffinity, opt "podAffinity" podAffinity,
  opt "podAntiAffinity" podAffinity]

def toleration : Shape := .object [
  opt "effect" .text, opt "key" .text, opt "operator" .text, opt "tolerationSeconds" .int64,
  opt "value" .text]

def topologySpreadConstraint : Shape := .object [
  opt "labelSelector" labelSelector, opt "matchLabelKeys" texts, req "maxSkew" .int32,
  opt "minDomains" .int32, opt "nodeAffinityPolicy" .text, opt "nodeTaintsPolicy" .text,
  req "topologyKey" .text, req "whenUnsatisfiable" .text]

end GridOperator.Kubernetes.Shape
