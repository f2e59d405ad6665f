/-
This file keeps the providers, which turn configurations into connections.
-/

import Std.Data.TreeMap
import ContentMount.Mount.Config
import ContentMount.Remote.Connection

namespace ContentMount

open Remote

/-- The reasons for which no connection is made. -/
inductive ProviderError where
  /-- No provider has the name. -/
  | unknown (name : String) (available : List String)
  /-- The configuration is not accepted. -/
  | config (error : MountError)
  /-- The client of the service cannot be made. -/
  | client (service : String) (error : RemoteError)
  /-- The provider cannot mount the remote path. -/
  | cannotMount (name remotePath : String)
  deriving DecidableEq

/-- The outermost message, and then the ones that explain it. -/
def ProviderError.chain : ProviderError → List String
  | .unknown name available =>
    ["Unknown provider '" ++ name ++ "'. Available: " ++ ", ".intercalate available]
  | .config error => error.chain
  | .client service error => ["Failed to create " ++ service ++ " client", error.message]
  | .cannotMount name remotePath => [name ++ " cannot mount " ++ remotePath]

/-- A provider has a name and a description, and makes connections. The second argument is the
region that the surroundings name. -/
structure Provider where
  name : String
  description : String
  connect : MountConfig → Option String → Except ProviderError Connection

/-- A configuration is checked before a connection is made for it. -/
def checked (config : MountConfig) (connection : Except ProviderError Connection) :
    Except ProviderError Connection :=
  match config.validate with
  | .error error => .error (.config error)
  | .ok () => connection

namespace Provider

/-- The provider for Dropbox. -/
def dropbox : Provider where
  name := "dropbox"
  description := "Dropbox files API (access token)"
  connect config _ := checked config <|
    match Dropbox.Client.create (config.accessToken.getD "") Dropbox.publicApiUrl
        Dropbox.publicContentUrl with
    | .ok client => .ok (.dropbox client)
    | .error error => .error (.client "Dropbox" error)

/-- The region to sign for. The configuration comes first and the surroundings second. -/
def signingRegion (config : MountConfig) (surroundings : Option String) : String :=
  (config.region <|> surroundings).getD "us-east-1"

/-- The provider for buckets. -/
def bucket : Provider where
  name := "s3"
  description := "Amazon S3 or S3-compatible bucket"
  connect config surroundings := checked config <|
    .ok (.bucket ⟨config.bucket.getD "", signingRegion config surroundings, config.endpoint⟩)

/-- A provider that is known by name but mounts nothing. -/
def idle (name description : String) : Provider where
  name
  description
  connect config _ := .error (.cannotMount name config.remotePath)

end Provider

/-- The providers by their names. -/
structure Registry where
  providers : Std.TreeMap String Provider

namespace Registry

def empty : Registry := ⟨∅⟩

/-- A later provider takes the place of an earlier one with the same name. -/
def register (registry : Registry) (provider : Provider) : Registry :=
  ⟨registry.providers.insert provider.name provider⟩

/-- The registry of the providers that are always there. -/
def standard : Registry :=
  (empty.register .dropbox).register .bucket

def get? (registry : Registry) (name : String) : Option Provider :=
  registry.providers[name]?

/-- The names of all providers in their order. -/
def names (registry : Registry) : List String :=
  registry.providers.keys

/-- Connects with the provider that the configuration names. -/
def connect (registry : Registry) (config : MountConfig) (surroundings : Option String) :
    Except ProviderError Connection :=
  match registry.get? config.provider with
  | some provider => provider.connect config surroundings
  | none => .error (.unknown config.provider registry.names)

end Registry

end ContentMount
