import GridOperator.Cluster.Basic

/-!
# Backup resources
-/

namespace GridOperator

open Kubernetes

/-- A backup of a running cluster, once or again and again. -/
structure HotBackupSpec where
  /-- The cluster, a resource of the same namespace. -/
  clusterResource : String
  /-- When to repeat the backup; empty for a single one. -/
  schedule : String := ""
  /-- The secret with the credentials of the external storage. -/
  secret : String := ""
  deriving DecidableEq

namespace HotBackupSpec

def ofJson? (j : Json) : Option HotBackupSpec := do
  let r ← Record.ofJson? ["hazelcastResourceName", "schedule", "secret"] j
  return {
    clusterResource := ← r.required "hazelcastResourceName" Json.text
    schedule := ← r.withDefault "schedule" Json.text ""
    secret := ← r.withDefault "secret" Json.text "" }

def toJson (s : HotBackupSpec) : Json := .obj [
  ("hazelcastResourceName", .str s.clusterResource),
  ("schedule", .str s.schedule),
  ("secret", .str s.secret)]

end HotBackupSpec

structure HotBackup where
  metadata : ObjectMeta
  spec : HotBackupSpec
  deriving DecidableEq

namespace HotBackup

def kind : String := "HotBackup"

def ofJson? (j : Json) : Option HotBackup := do
  let r ← Record.ofJson? ["metadata", "spec"] j
  return {
    metadata := ← r.required "metadata" ObjectMeta.ofJson?
    spec := ← r.required "spec" HotBackupSpec.ofJson? }

def toJson (b : HotBackup) : Json := .obj [
  ("apiVersion", .str resourceVersionGroup),
  ("kind", .str kind),
  ("metadata", b.metadata.toJson),
  ("spec", b.spec.toJson)]

instance : Resource HotBackup where
  kind := kind
  metadata := metadata
  withMetadata b m := { b with metadata := m }
  toJson := toJson
  ofJson? := ofJson?

end HotBackup

end GridOperator
