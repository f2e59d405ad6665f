/-
This file connects the clients of remote services to whatever carries their requests.
-/

import ContentMount.Remote.Bucket.Client
import ContentMount.Remote.Dropbox.Client

namespace ContentMount.Remote

/-- A connection is a client that is ready to be used. -/
inductive Connection where
  | dropbox (client : Dropbox.Client)
  | bucket (client : Bucket.Client)
  deriving DecidableEq

/-- The short name of the store behind a connection. -/
def Connection.name : Connection → String
  | .dropbox _ => "dropbox"
  | .bucket _ => "s3"

/-- A transport carries requests to the services and brings back what it gets. -/
structure Transport (σ : Type) where
  web : WebRequest → StateM σ Exchange
  bucket : Bucket.Client → (call : Bucket.Call) → StateM σ call.Answer

/-- The store that a connection gives over a transport. -/
def Connection.store {σ : Type} (transport : Transport σ) : Connection → Store σ
  | .dropbox client =>
    { name := "dropbox"
      answer := fun request => Dialogue.run transport.web (client.answer request) }
  | .bucket client =>
    { name := "s3"
      answer := fun request => Dialogue.run (transport.bucket client) (client.answer request) }

/-- The transport that reaches no host. -/
def Transport.unreachable {σ : Type} : Transport σ where
  web _ := return .noAnswer "the host cannot be reached"
  bucket _ _ := return .error ⟨none, "the host cannot be reached"⟩

end ContentMount.Remote
