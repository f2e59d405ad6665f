/-
This file defines the configuration of a mount and decides which ones are accepted.
-/

import ContentMount.Mount.Error
import ContentMount.Path.Basic

namespace ContentMount

/-- Everything that is needed to mount one remote store. The remote root appears at the mount
point, and the credentials are for the provider that needs them. -/
structure MountConfig where
  provider : String := "dropbox"
  mountPoint : String := "/content/dropbox"
  remotePath : String := "/adaptto"
  accessToken : Option String := none
  bucket : Option String := none
  endpoint : Option String := none
  region : Option String := none
  deriving DecidableEq

namespace MountConfig

/-- A piece that may not occur in a mount point. -/
def isRelativePiece (piece : String) : Bool :=
  Path.isIdle piece || piece == ".."

/-- The first problem of a mount point. The problems are looked for in this order. -/
def mountProblem? (mountPoint : String) : Option ConfigProblem :=
  if !Path.isAbsolute mountPoint then some (.mountNotAbsolute mountPoint)
  else if mountPoint == "/" then some .mountIsRoot
  else if mountPoint.toList.getLast? == some '/' then some (.mountEndsWithSlash mountPoint)
  else if (Path.pieces mountPoint).tail.any isRelativePiece then some (.mountSegment mountPoint)
  else none

/-- A remote path is empty or absolute. -/
def remoteProblem? (remotePath : String) : Option ConfigProblem :=
  if remotePath == "" || Path.isAbsolute remotePath then none
  else some (.remoteNotAbsolute remotePath)

/-- The first problem of the two paths. -/
def pathProblem? (config : MountConfig) : Option ConfigProblem :=
  mountProblem? config.mountPoint <|> remoteProblem? config.remotePath

/-- A credential counts only when it is given and not empty. -/
def isGiven (credential : Option String) : Bool :=
  credential.getD "" != ""

/-- The credential that the provider needs and that is not given. -/
def credentialProblem? (config : MountConfig) : Option ConfigProblem :=
  if config.provider == "dropbox" && !isGiven config.accessToken then some .noAccessToken
  else if config.provider == "s3" && !isGiven config.bucket then some .noBucket
  else none

/-- Accepts when no problem is found. -/
def accept : Option ConfigProblem → Except MountError Unit
  | none => .ok ()
  | some problem => .error (.invalidConfig problem)

/-- Checks the mount point and the remote path. -/
def validatePaths (config : MountConfig) : Except MountError Unit :=
  accept config.pathProblem?

/-- Checks the paths and then the credentials. -/
def validate (config : MountConfig) : Except MountError Unit :=
  accept (config.pathProblem? <|> config.credentialProblem?)

/-- An optional text as it is shown for inspection. -/
def showOption : Option String → String
  | none => "None"
  | some text => "Some(" ++ Text.quoted text ++ ")"

/-- The configuration as it is shown for inspection. The access token stays hidden. -/
def inspect (config : MountConfig) : String :=
  "MountConfig \x7b provider: " ++ Text.quoted config.provider ++
    ", mount_point: " ++ Text.quoted config.mountPoint ++
    ", remote_path: " ++ Text.quoted config.remotePath ++
    ", access_token: " ++ showOption (config.accessToken.map fun _ => "<redacted>") ++
    ", bucket: " ++ showOption config.bucket ++
    ", endpoint_url: " ++ showOption config.endpoint ++
    ", region: " ++ showOption config.region ++ " \x7d"

end MountConfig

end ContentMount
