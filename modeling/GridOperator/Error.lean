import GridOperator.Text.Quoted

/-!
# What can go wrong

`Error` lists the causes for which a pass over a resource ends early, with their
wording (`message`) and the time after which the pass is tried again.
-/

namespace GridOperator

/-- Why a specification is refused. -/
inductive Objection where
  | unisocketMemberAccess
  | licenseMissing
  | restoreIncomplete
  | unknownProvider (uri : String)
  | backupSecretMissing
  | notPersistent (cluster : String)
  /-- A reason in words. -/
  | stated (text : String)
  deriving DecidableEq

namespace Objection

def text : Objection → String
  | unisocketMemberAccess =>
    "when exposeExternally.type is set to \"Unisocket\", exposeExternally.memberAccess must not be set"
  | licenseMissing => "when Hazelcast Enterprise is deployed, licenseKeySecret must be set"
  | restoreIncomplete => "when restore configuration is given, secret and bucketURI must be set"
  | unknownProvider uri =>
    "restore bucket URI " ++ Text.quoted uri
      ++ " has no supported provider scheme (s3://, gs://, azblob://)"
  | backupSecretMissing => "when using external backup, secret must be set"
  | notPersistent cluster =>
    "Hazelcast " ++ cluster ++ " has no persistence configured, hot backup is not possible"
  | stated text => text

end Objection

/-- How a request over HTTP fails. -/
inductive HttpFailure where
  /-- The address is none. -/
  | address
  /-- Nobody answered, or the connection broke off. -/
  | unanswered
  | timeout
  /-- The answer is one of the refusals, 400 to 599. -/
  | status (code : Nat)
  /-- The body of the answer is not what was expected. -/
  | body
  deriving DecidableEq

inductive Error where
  /-- A request to the platform failed, with the code of the refusal if there was an answer. -/
  | api (code : Option Nat)
  | json
  | yaml
  | http (failure : HttpFailure)
  /-- Somebody else wrote the object since it was read. -/
  | conflict (kind name : String)
  | invalid (objection : Objection)
  /-- The members refused an operation. -/
  | clusterApi (operation message : String)
  | unexpectedState (state : String)
  | schedule (expression : String)
  | notFound (name : String)
  /-- A change would have given the object another name. -/
  | renamed (before after : String)
  | noNamespace (kind name : String)
  /-- A failure in words. -/
  | stated (message : String)
  deriving DecidableEq

namespace Error

def message : Error → String
  | api _ => "the platform refused a request"
  | json => "a document is not the expected JSON"
  | yaml => "a document cannot be written as YAML"
  | http _ => "a request to a member failed"
  | conflict kind name =>
    "conflict updating " ++ kind ++ " " ++ name ++ ": object was modified concurrently"
  | invalid objection => "invalid specification: " ++ objection.text
  | clusterApi operation message => "cluster API call " ++ operation ++ " failed: " ++ message
  | unexpectedState state => "unexpected cluster state " ++ Text.quoted state
  | schedule expression => "invalid backup schedule " ++ Text.quoted expression
  | notFound name => name ++ " not found"
  | renamed before after => "mutation changed object name from " ++ before ++ " to " ++ after
  | noNamespace kind name => kind ++ " " ++ name ++ " has no namespace"
  | stated message => message

/-- Whether the same pass may succeed later although nobody changes the specification. -/
def isRetryable : Error → Bool
  | invalid _ | schedule _ => false
  | _ => true

/-- The seconds until a failed pass over a cluster is tried again. -/
def clusterDelay (e : Error) : Nat := if e.isRetryable then 30 else 300

/-- The seconds until a failed pass over a backup is tried again. -/
def backupDelay (e : Error) : Nat := if e.isRetryable then 60 else 300

end Error

end GridOperator
