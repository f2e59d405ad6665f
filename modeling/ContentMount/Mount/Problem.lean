/-
This file lists what can be wrong with the configuration of a mount.
-/

import ContentMount.Text.Escape

namespace ContentMount

/-- The reasons for which a configuration is not accepted. -/
inductive ConfigProblem where
  | mountNotAbsolute (mountPoint : String)
  | mountIsRoot
  | mountEndsWithSlash (mountPoint : String)
  | mountSegment (mountPoint : String)
  | remoteNotAbsolute (remotePath : String)
  | noAccessToken
  | noBucket
  /-- A provider states its own reason. -/
  | stated (reason : String)
  deriving DecidableEq

/-- The sentence that tells a person about the problem. Paths are quoted, so that blanks and
odd characters in them show. -/
def ConfigProblem.message : ConfigProblem → String
  | .mountNotAbsolute mountPoint => "mount point must be absolute: " ++ Text.quoted mountPoint
  | .mountIsRoot => "mount point must not be the repository root"
  | .mountEndsWithSlash mountPoint =>
    "mount point must not end with '/': " ++ Text.quoted mountPoint
  | .mountSegment mountPoint =>
    "mount point has an empty or relative segment: " ++ Text.quoted mountPoint
  | .remoteNotAbsolute remotePath =>
    "remote path must be empty or absolute: " ++ Text.quoted remotePath
  | .noAccessToken => "dropbox requires an access token"
  | .noBucket => "s3 requires a bucket"
  | .stated reason => reason

end ContentMount
