/-
This file reads a remote tree into a snapshot, folder by folder and page by page.
The whole subtree of a page comes before the next page of its folder.
-/

import ContentMount.Mount.Error
import ContentMount.Path.Text
import ContentMount.Remote.Request
import ContentMount.Tree.Snapshot

namespace ContentMount

open Remote

/-- A build adds to a snapshot while it asks the store. It fails with an error, or it gives up
without a result when its limit is used up. -/
abbrev Build : Type → Type := StateT Snapshot (ExceptT MountError (OptionT Asking))

namespace Build

/-- Gives up without a result. -/
def giveUp {α : Type} : Build α :=
  fun _ => (OptionT.fail : OptionT Asking _)

/-- Asks the store. A refusal names the remote path that is being read. -/
def consult {α : Type} (path : String) (question : Asking (Except RemoteError α)) : Build α :=
  fun snapshot => (do
    match ← (question : Asking _) with
    | .ok result => return some (.ok (result, snapshot))
    | .error source => return some (.error (.build path source)) : Asking _)

/-- A file becomes a node with one child, which holds the content. -/
def addFile (key source : String) : Build Descriptor := do
  let content := Descriptor.content source
  let file := Descriptor.file (Path.nameText key)
  modify fun snapshot =>
    ((snapshot.addNode (Path.below key Name.content) content).addFamily key [content]).addNode key
      file
  return file

/-- A folder becomes a node above the family that its listing gives. -/
def addFolder (key : String) (family : List Descriptor) : Build Descriptor := do
  let folder := Descriptor.folder (Path.nameText key)
  modify fun snapshot => (snapshot.addFamily key family).addNode key folder
  return folder

/-- Adds an entry with everything below it. The given function reads listings. -/
def addEntry (list : String → String → Listing → Build (List Descriptor)) (key path : String)
    (entry : Entry) : Build Descriptor :=
  match entry.kind with
  | .file => addFile key entry.path
  | .folder | .deleted => do addFolder key (← list key path (.first entry.path))

/-- Reads a folder from one of its pages on. The key and the path are those of the folder. The
limit bounds how many pages can follow one another, counting pages of folders within folders. -/
def readFolder : Nat → String → String → Listing → Build (List Descriptor)
  | 0, _, _, _ => giveUp
  | limit + 1, key, path, listing => do
    let page ← consult path (askPage listing)
    let family ← page.live.mapM fun entry =>
      addEntry (readFolder limit) (Path.below key entry.name) (Path.below path entry.name) entry
    if page.hasMore then
      return family ++ (← readFolder limit key path (.after page.cursor))
    else
      return family

/-- The store root needs no lookup. -/
def isStoreRoot (remotePath : String) : Bool :=
  Path.withoutSlashes remotePath == ""

/-- The entry to start from. There is none when the store reports that nothing is there. -/
def rootEntry (mountPoint remotePath : String) : Build (Option Entry) :=
  if isStoreRoot remotePath then
    return some ⟨.folder, Path.nameText mountPoint, "/"⟩
  else
    consult remotePath (do
      match ← askMetadata remotePath with
      | .ok entry => return .ok (entry.filter Entry.isLive)
      | .error (.notFound _) => return .ok none
      | .error source => return .error source)

/-- The steps of a whole build. A missing root leaves the snapshot empty. -/
def steps (limit : Nat) (mountPoint remotePath : String) : Build Unit := do
  match ← rootEntry mountPoint remotePath with
  | none => return
  | some entry => discard (addEntry (readFolder limit) mountPoint remotePath entry)

end Build

/-- The snapshot of the remote tree at the remote path, with keys below the mount point. -/
def Snapshot.build (limit : Nat) (mountPoint remotePath : String) :
    Asking (Option (Except MountError Snapshot)) := do
  let outcome ← Build.steps limit mountPoint remotePath Snapshot.empty
  return outcome.map fun result => result.map (·.2)

end ContentMount
