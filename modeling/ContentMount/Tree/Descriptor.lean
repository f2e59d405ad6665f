/-
This file describes the nodes of a mounted tree before anybody looks at them.
-/

import ContentMount.Path.Basic

namespace ContentMount

/-- The names that the tree gives to types, properties and content nodes. -/
def Name.primaryType : String := "jcr:primaryType"
def Name.name : String := "jcr:name"
def Name.content : String := "jcr:content"
def Name.data : String := "jcr:data"
def Name.path : String := "jcr:path"

/-- A remote folder, a remote file, or the content below a file. -/
inductive NodeKind where
  | folder
  | file
  | content
  deriving DecidableEq

/-- The type of the folders above the remote root. -/
def virtualFolderType : String := "nt:folder"

/-- The primary type of a node of each kind. -/
def NodeKind.primaryType : NodeKind → String
  | .folder => "sling:Folder"
  | .file => "nt:file"
  | .content => "nt:resource"

/-- Folders are the nodes that can be entered. -/
def isFolderType (primaryType : String) : Bool :=
  primaryType == NodeKind.folder.primaryType || primaryType == virtualFolderType

/-- What the tree knows of a node. A content node knows the remote path of its file. -/
inductive Descriptor where
  | folder (name : String)
  | file (name : String)
  | content (source : String)
  deriving DecidableEq

/-- An attribute holds a text, or the remote path of content that has not been fetched. -/
inductive Attribute where
  | text (value : String)
  | data (source : String)
  deriving DecidableEq

namespace Descriptor

def kind : Descriptor → NodeKind
  | .folder _ => .folder
  | .file _ => .file
  | .content _ => .content

/-- The name of the node. All content nodes have the same one. -/
def name : Descriptor → String
  | .folder name => name
  | .file name => name
  | .content _ => Name.content

def primaryType (descriptor : Descriptor) : String :=
  descriptor.kind.primaryType

/-- The remote path of the content. -/
def source? : Descriptor → Option String
  | .content source => some source
  | _ => none

/-- The attributes in their fixed order: type, name and then content. -/
def attributes (descriptor : Descriptor) : List (String × Attribute) :=
  [(Name.primaryType, .text descriptor.primaryType), (Name.name, .text descriptor.name)] ++
    (descriptor.source?.map fun source => (Name.data, Attribute.data source)).toList

end Descriptor

end ContentMount
