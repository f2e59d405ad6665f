/-
This file lists the ways in which mounting and browsing can fail.
-/

import ContentMount.Mount.Problem
import ContentMount.Remote.Error

namespace ContentMount

open Remote (RemoteError)

/-- The operations that a read-only tree refuses. -/
inductive Operation where
  | setProperty | addNode | orderBefore | setPrimaryType | addMixin | removeMixin | remove
  | setValue
  | uuid
  | checkin | checkout | restore | restoreByLabel
  | merge | doneMerge | cancelMerge | update | correspondingNodePath
  | lock | unlock | getLock
  | followLifecycleTransition | allowedLifecycleTransitions
  | move | copy
  deriving DecidableEq

/-- The name of an operation in messages. -/
def Operation.name : Operation → String
  | .setProperty => "set_property"
  | .addNode => "add_node"
  | .orderBefore => "order_before"
  | .setPrimaryType => "set_primary_type"
  | .addMixin => "add_mixin"
  | .removeMixin => "remove_mixin"
  | .remove => "remove"
  | .setValue => "set_value"
  | .uuid => "uuid"
  | .checkin => "checkin"
  | .checkout => "checkout"
  | .restore => "restore"
  | .restoreByLabel => "restore_by_label"
  | .merge => "merge"
  | .doneMerge => "done_merge"
  | .cancelMerge => "cancel_merge"
  | .update => "update"
  | .correspondingNodePath => "corresponding_node_path"
  | .lock => "lock"
  | .unlock => "unlock"
  | .getLock => "get_lock"
  | .followLifecycleTransition => "follow_lifecycle_transition"
  | .allowedLifecycleTransitions => "allowed_lifecycle_transitions"
  | .move => "move"
  | .copy => "copy"

/-- The forms between which values are converted. -/
inductive ValueForm where
  | string
  | binary
  | long
  | double
  | boolean
  deriving DecidableEq

def ValueForm.name : ValueForm → String
  | .string => "String"
  | .binary => "Binary"
  | .long => "Long"
  | .double => "Double"
  | .boolean => "Boolean"

/-- The reasons for which a mount or a look into a mounted tree fails. -/
inductive MountError where
  /-- The remote tree could not be read, so nothing was mounted. -/
  | build (path : String) (source : RemoteError)
  /-- Nothing is at the path. -/
  | notFound (path : String)
  /-- A part that goes by a name, and not by a path, is missing. -/
  | itemNotFound (name : String)
  /-- A change to the structure or to a property is refused. -/
  | constraintViolation (operation : Operation) (path : String)
  /-- Taking a node away is refused. -/
  | accessDenied (operation : Operation) (path : String)
  /-- The tree has no such operation. -/
  | unsupported (operation : Operation)
  /-- A file could not be downloaded. The next reader tries again. -/
  | contentFetch (path : String) (source : RemoteError)
  /-- A value does not have the form that was asked for. -/
  | valueFormat (expected found : ValueForm)
  /-- The configuration cannot be mounted. -/
  | invalidConfig (problem : ConfigProblem)
  deriving DecidableEq

/-- The sentence that tells a person about the error. -/
def MountError.message : MountError → String
  | .build path source => "Failed to build tree from " ++ path ++ ": " ++ source.message
  | .notFound path => "Path not found: " ++ path
  | .itemNotFound name => "Item not found: " ++ name
  | .constraintViolation operation path =>
    "Constraint violation: " ++ operation.name ++ " is not allowed on " ++ path
  | .accessDenied operation path => "Access denied: " ++ operation.name ++ " on " ++ path
  | .unsupported operation => "Unsupported operation: " ++ operation.name
  | .contentFetch path source =>
    "Failed to fetch content for " ++ path ++ ": " ++ source.message
  | .valueFormat expected found =>
    "Cannot convert " ++ found.name ++ " value to " ++ expected.name
  | .invalidConfig problem => "Invalid configuration: " ++ problem.message

/-- The remote error behind this one. -/
def MountError.source? : MountError → Option RemoteError
  | .build _ source => some source
  | .contentFetch _ source => some source
  | _ => none

/-- The message of the error and of the one behind it. -/
def MountError.chain (error : MountError) : List String :=
  error.message :: error.source?.toList.map RemoteError.message

/-- Something was looked for and is not there. -/
def MountError.isNotFound : MountError → Bool
  | .notFound _ => true
  | .itemNotFound _ => true
  | _ => false

def MountError.isConstraintViolation : MountError → Bool
  | .constraintViolation .. => true
  | _ => false

def MountError.isAccessDenied : MountError → Bool
  | .accessDenied .. => true
  | _ => false

def MountError.isUnsupported : MountError → Bool
  | .unsupported _ => true
  | _ => false

def MountError.isBuildFailure : MountError → Bool
  | .build .. => true
  | _ => false

def MountError.isContentFetch : MountError → Bool
  | .contentFetch .. => true
  | _ => false

def MountError.isValueFormat : MountError → Bool
  | .valueFormat .. => true
  | _ => false

end ContentMount
