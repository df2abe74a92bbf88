import GridOperator.Cluster.Spec
import GridOperator.Error
import GridOperator.Kubernetes.Container
import GridOperator.Kubernetes.Volume

/-!
# Providers of storage for backups

A restore names its provider by the scheme of the bucket's URI; each provider
takes its credentials from the secret in a way of its own.
-/

namespace GridOperator

open Kubernetes

inductive RestoreProvider where
  /-- Access key, secret key and region are variables. -/
  | s3
  /-- A file with credentials is mounted. -/
  | gcs
  /-- Account and key of the storage are variables. -/
  | azureBlob
  deriving DecidableEq

namespace RestoreProvider

def name : RestoreProvider → String
  | s3 => "S3"
  | gcs => "Gcs"
  | azureBlob => "AzureBlob"

/-- What stands before the first `://`, nothing if that does not occur. -/
def scheme : List Char → Option (List Char)
  | [] => none
  | ':' :: '/' :: '/' :: _ => some []
  | c :: cs => (scheme cs).map (c :: ·)

def ofUri (uri : String) : Except Error RestoreProvider :=
  match scheme uri.toList with
  | some ['s', '3'] => .ok s3
  | some ['g', 's'] => .ok gcs
  | some ['a', 'z', 'b', 'l', 'o', 'b'] => .ok azureBlob
  | _ => .error (.invalid (.unknownProvider uri))

/-- A variable with the value of a key of a secret. -/
def secretVariable (name secret key : String) : EnvVar :=
  { name, valueFrom := some { secretKeyRef := some { name := secret, key } } }

def credentialsVolume : String := "gcp-credentials"

def credentialsDir : String := "/var/secrets/gcp"

/-- The variables that hold, or lead to, the credentials. -/
def credentials (secret : String) : RestoreProvider → List EnvVar
  | s3 => [
    secretVariable "AWS_ACCESS_KEY_ID" secret "access-key-id",
    secretVariable "AWS_SECRET_ACCESS_KEY" secret "secret-access-key",
    secretVariable "AWS_REGION" secret "region"]
  | gcs => [
    { name := "GOOGLE_APPLICATION_CREDENTIALS"
      value := some (credentialsDir ++ "/google-credentials-path") }]
  | azureBlob => [
    secretVariable "AZURE_STORAGE_ACCOUNT" secret "storage-account",
    secretVariable "AZURE_STORAGE_KEY" secret "storage-key"]

/-- The volumes needed besides the one with the data. -/
def volumes (secret : String) : RestoreProvider → List Volume
  | gcs => [{ name := credentialsVolume, secret := some secret }]
  | s3 | azureBlob => []

/-- The mounts needed besides the one of the data. -/
def mounts : RestoreProvider → List VolumeMount
  | gcs => [{ name := credentialsVolume, mountPath := credentialsDir }]
  | s3 | azureBlob => []

end RestoreProvider

namespace Restore

/-- Refuses a restore without secret or URI and one from an unknown provider. -/
def provider (r : Restore) : Except Error RestoreProvider :=
  if r.secret.isEmpty || r.bucketURI.isEmpty then .error (.invalid .restoreIncomplete)
  else RestoreProvider.ofUri r.bucketURI

end Restore

end GridOperator
