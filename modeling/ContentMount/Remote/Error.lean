/-
This file lists what can go wrong between a client and its remote store.
-/

namespace ContentMount.Remote

/-- The reasons for which a request has no good answer. -/
inductive RemoteError where
  /-- The store reports that nothing is at the path. -/
  | notFound (path : String)
  /-- The service answers with a status that is no success. -/
  | refused (endpoint : String) (status : Nat) (summary : String)
  /-- The exchange itself fails, so that there is no whole answer. -/
  | exchange (detail : String)
  /-- An object store rejects an operation. -/
  | objectStore (operation : String) (detail : String)
  /-- The answer does not have the form that it should have. -/
  | undecodable (detail : String)
  deriving DecidableEq

/-- Only a positive report of absence counts as absence. -/
def RemoteError.isNotFound : RemoteError → Bool
  | .notFound _ => true
  | _ => false

/-- The sentence that tells a person about the error. -/
def RemoteError.message : RemoteError → String
  | .notFound path => "Remote path not found: " ++ path
  | .refused endpoint status summary =>
    endpoint ++ " failed with status " ++ toString status ++ ": " ++ summary
  | .exchange detail => "HTTP request failed: " ++ detail
  | .objectStore operation detail => "S3 " ++ operation ++ " failed: " ++ detail
  | .undecodable detail => "Failed to decode response: " ++ detail

end ContentMount.Remote
