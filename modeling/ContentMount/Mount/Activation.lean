/-
This file mounts a remote store. A mount exists only when its whole tree could be read.
-/

import ContentMount.Content.View
import ContentMount.Mount.Config
import ContentMount.Tree.Build

namespace ContentMount

open Remote

/-- A mount shows the tree that was read for a configuration. -/
structure Mount where
  config : MountConfig
  view : View

/-- Reads the tree of a configuration and mounts it. Without valid paths no request is sent. The
limit is that of the build, and without a result it was used up. -/
def Mount.activate (limit : Nat) (config : MountConfig) :
    Asking (Option (Except MountError Mount)) :=
  match config.validatePaths with
  | .error error => return some (.error error)
  | .ok () => do
    let outcome ← Snapshot.build limit config.mountPoint config.remotePath
    return outcome.map fun result => result.map fun snapshot =>
      ⟨config, .ofSnapshot snapshot config.mountPoint⟩

end ContentMount
