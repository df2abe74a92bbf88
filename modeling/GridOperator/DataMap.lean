import GridOperator.Cluster.Basic

/-!
# Map resources

A map of a cluster, as it is configured in the cluster's members.
-/

namespace GridOperator

open Kubernetes

structure Eviction where
  policy : String := "NONE"
  maxSize : Int32 := 0
  maxSizePolicy : String := "PER_NODE"
  deriving DecidableEq

namespace Eviction

def ofJson? (j : Json) : Option Eviction := do
  let r ← Record.ofJson? ["evictionPolicy", "maxSize", "maxSizePolicy"] j
  return {
    policy := ← r.withDefault "evictionPolicy" Json.text "NONE"
    maxSize := ← r.withDefault "maxSize" Json.int32 0
    maxSizePolicy := ← r.withDefault "maxSizePolicy" Json.text "PER_NODE" }

def toJson (e : Eviction) : Json := .obj [
  ("evictionPolicy", .str e.policy),
  ("maxSize", .ofInt32 e.maxSize),
  ("maxSizePolicy", .str e.maxSizePolicy)]

end Eviction

structure BitmapOptions where
  uniqueKey : String
  uniqueKeyTransition : String
  deriving DecidableEq

namespace BitmapOptions

def ofJson? (j : Json) : Option BitmapOptions := do
  let r ← Record.ofJson? ["uniqueKey", "uniqueKeyTransition"] j
  return {
    uniqueKey := ← r.required "uniqueKey" Json.text
    uniqueKeyTransition := ← r.required "uniqueKeyTransition" Json.text }

def toJson (b : BitmapOptions) : Json := .obj [
  ("uniqueKey", .str b.uniqueKey),
  ("uniqueKeyTransition", .str b.uniqueKeyTransition)]

end BitmapOptions

structure Index where
  name : Option String := none
  /-- `SORTED`, `HASH` or `BITMAP`. -/
  type : String
  attributes : List String := []
  bitmapOptions : Option BitmapOptions := none
  deriving DecidableEq

namespace Index

def ofJson? (j : Json) : Option Index := do
  let r ← Record.ofJson? ["name", "type", "attributes", "bitmapIndexOptions"] j
  return {
    name := ← r.optional "name" Json.text
    type := ← r.required "type" Json.text
    attributes := ← r.withDefault "attributes" (Json.list Json.text) []
    bitmapOptions := ← r.optional "bitmapIndexOptions" BitmapOptions.ofJson? }

def toJson (i : Index) : Json := .obj [
  ("name", .ofOption .str i.name),
  ("type", .str i.type),
  ("attributes", .strings i.attributes),
  ("bitmapIndexOptions", .ofOption BitmapOptions.toJson i.bitmapOptions)]

end Index

structure DataMapSpec where
  /-- The name inside the cluster; that of the resource when it is left out. -/
  name : Option String := none
  clusterResource : String
  backupCount : Int32 := 1
  timeToLiveSeconds : Int32 := 0
  eviction : Eviction := {}
  indexes : List Index := []
  persistenceEnabled : Bool := false
  deriving DecidableEq

namespace DataMapSpec

def ofJson? (j : Json) : Option DataMapSpec := do
  let r ← Record.ofJson? ["name", "hazelcastResourceName", "backupCount", "timeToLiveSeconds",
    "eviction", "indexes", "persistenceEnabled"] j
  return {
    name := ← r.optional "name" Json.text
    clusterResource := ← r.required "hazelcastResourceName" Json.text
    backupCount := ← r.withDefault "backupCount" Json.int32 1
    timeToLiveSeconds := ← r.withDefault "timeToLiveSeconds" Json.int32 0
    eviction := ← r.withDefault "eviction" Eviction.ofJson? {}
    indexes := ← r.withDefault "indexes" (Json.list Index.ofJson?) []
    persistenceEnabled := ← r.withDefault "persistenceEnabled" Json.flag false }

def toJson (s : DataMapSpec) : Json := .obj [
  ("name", .ofOption .str s.name),
  ("hazelcastResourceName", .str s.clusterResource),
  ("backupCount", .ofInt32 s.backupCount),
  ("timeToLiveSeconds", .ofInt32 s.timeToLiveSeconds),
  ("eviction", s.eviction.toJson),
  ("indexes", .ofList Index.toJson s.indexes),
  ("persistenceEnabled", .bool s.persistenceEnabled)]

end DataMapSpec

/-- How far a map's configuration has come into the members. -/
inductive DataMapState where
  | pending
  | persisting
  | success
  | failed
  | terminating
  deriving DecidableEq

namespace DataMapState

def name : DataMapState → String
  | pending => "Pending"
  | persisting => "Persisting"
  | success => "Success"
  | failed => "Failed"
  | terminating => "Terminating"

def ofJson? : Json.Decoder DataMapState :=
  Json.named [("Pending", pending), ("Persisting", persisting), ("Success", success),
    ("Failed", failed), ("Terminating", terminating)]

/-- A status consists of the state. -/
def ofStatusJson? (j : Json) : Option DataMapState := do
  let r ← Record.ofJson? ["state"] j
  r.withDefault "state" ofJson? .pending

def statusJson (s : DataMapState) : Json := .obj [("state", .str s.name)]

end DataMapState

structure DataMap where
  metadata : ObjectMeta
  spec : DataMapSpec
  status : Option DataMapState := none
  deriving DecidableEq

namespace DataMap

def kind : String := "Map"

def ofJson? (j : Json) : Option DataMap := do
  let r ← Record.ofJson? ["metadata", "spec", "status"] j
  return {
    metadata := ← r.required "metadata" ObjectMeta.ofJson?
    spec := ← r.required "spec" DataMapSpec.ofJson?
    status := ← r.optional "status" DataMapState.ofStatusJson? }

def toJson (m : DataMap) : Json := .obj <| Json.ofSome [
  ("apiVersion", some (.str resourceVersionGroup)),
  ("kind", some (.str kind)),
  ("metadata", some m.metadata.toJson),
  ("spec", some m.spec.toJson),
  ("status", m.status.map DataMapState.statusJson)]

instance : Resource DataMap where
  kind := kind
  metadata := metadata
  withMetadata m md := { m with metadata := md }
  toJson := toJson
  ofJson? := ofJson?

/-- The name inside the cluster. -/
def mapName (m : DataMap) : String := m.spec.name.getD (Resource.anyName m)

/-- A map without a status is pending. -/
def state (m : DataMap) : DataMapState := m.status.getD .pending

end DataMap

end GridOperator
