/-
This file says what the query that lists a path brings. It lists the path before the first starred
segment, so the result is the one of the path itself only when there is no such segment or when
neither of the two paths lists anything.
-/

import ContentMount.Proofs.Content.Attributes
import ContentMount.Proofs.Content.Navigation
import ContentMount.Proofs.Mount.Published
import ContentMount.Proofs.Query.Statement
import ContentMount.Query.Result

namespace ContentMount

open Remote ContentMount.Path

/-- The query that lists a path, as a view answers it. -/
def View.listing (view : View) (path : Path) : Query :=
  ⟨view, view.queryRoots, Statement.listing path, Statement.xpath⟩

/-- What there is to list at a path: the mount point right below its parent, the children from the
mount point on, and nothing anywhere else. -/
def View.listed (view : View) (path : Path) : List Node :=
  if view.mountPoint.parent? = some path then [Node.virtualFolder view.mountPoint.text]
  else if view.mountPoint.isAncestorOrSelf path then view.children path.text
  else []

/-! ## Columns of rows -/

/-- A row tells what its node is. -/
structure Row.Tells (row : Row) : Prop where
  path : row.path = row.node.path
  /-- The path comes first and then every property. -/
  values : row.values = .text row.node.path :: row.node.properties.map Property.first
  pathColumn : row.value Name.path = .ok (.text row.node.path)
  /-- Every property has a column of its own. -/
  column : ∀ property ∈ row.node.properties, row.value property.name = .ok property.first
  /-- There are no other columns. -/
  missing : ∀ column, column ≠ Name.path → column ∉ row.node.properties.map Property.name →
    row.value column = .error (.itemNotFound column)

/-- Properties with different names are found by their names. -/
theorem Node.property?_name {node : Node} (distinct : (node.properties.map Property.name).Nodup)
    {property : Property} (member : property ∈ node.properties) :
    node.property? property.name = some property := by
  cases found : node.property? property.name with
  | none =>
      have different := List.find?_eq_none.mp found property member
      simp at different
  | some other =>
      have sameName : other.name = property.name := by simpa using List.find?_some found
      have otherMember := List.mem_of_find?_eq_some found
      rw [List.inj_on_of_nodup_map distinct otherMember member sameName]

/-- A row tells what its node is when the columns have different names. -/
theorem Row.tells {row : Row} (distinct : (row.node.properties.map Property.name).Nodup)
    (noPath : Name.path ∉ row.node.properties.map Property.name) : row.Tells where
  path := rfl
  values := rfl
  pathColumn := by simp [Row.value, Row.path]
  column property member := by
    have notPath : property.name ≠ Name.path := by
      intro same
      exact noPath (same ▸ List.mem_map_of_mem member)
    simp [Row.value, notPath, Node.property?_name distinct member]
  missing column notPath unknown := by
    have none : row.node.property? column = none := by
      apply List.find?_eq_none.mpr
      intro property member same
      exact unknown (List.mem_map.mpr ⟨property, member, by simpa using same⟩)
    simp [Row.value, notPath, none]

/-- A row of a descriptor's node tells what the node is. -/
theorem Row.tells_ofDescriptor (parent : String) (descriptor : Descriptor) :
    (Row.mk (Node.ofDescriptor parent descriptor)).Tells := by
  have known := descriptor.names_attributes
  rw [← Node.names_ofDescriptor parent] at known
  apply Row.tells
  · exact known.nodup (by decide)
  · intro among
    exact absurd (known.subset among) (by decide)

/-- A row of a virtual folder tells what the folder is. -/
theorem Row.tells_virtualFolder (path : String) : (Row.mk (Node.virtualFolder path)).Tells := by
  have names : (Node.virtualFolder path).properties.map Property.name = [Name.primaryType] := by
    exact congrArg ([·]) (nameText_below path ⟨by decide, by decide⟩)
  apply Row.tells
  · rw [names]
    decide
  · rw [names]
    decide

/-! ## Rows of a listing -/

/-- Right below a path there is the mount point or no root at all. -/
theorem QueryIntent.rootsBelow_path (path mount : Path) :
    rootsBelow path [.path mount] = if mount.parent? = some path then [mount.text] else [] := by
  by_cases above : mount.parent? = some path
  · simp [rootsBelow, QueryRoot.parent?, QueryRoot.text?, above]
    rfl
  · simp [rootsBelow, QueryRoot.parent?, above]
    rfl

namespace View

/-- The rows of a listing are those of the path before its first starred segment. -/
theorem nodes_listing {view : View} (published : view.Published) {path : Path}
    (names : path.HasNames) :
    (view.listing path).nodes = view.listed path.beforeStar := by
  have read := Statement.listedPath?_listing names
  have understood : (view.listing path).intent =
      QueryIntent.ofPath path.beforeStar [.path view.mountPoint] := by
    simp [listing, Query.intent, QueryIntent.ofStatement, read, queryRoots]
  rw [Query.nodes, understood, QueryIntent.ofPath, QueryIntent.rootsBelow_path, listed]
  by_cases above : view.mountPoint.parent? = some path.beforeStar
  · simp [above, listing, node?_mountPoint published.plain.names]
  · by_cases inside : view.mountPoint.isAncestorOrSelf path.beforeStar = true
    · simp [above, QueryRoot.covers, inside, listing]
    · simp [above, QueryRoot.covers, inside]

/-- What is listed at a path has the path of a child. -/
theorem exists_child_of_mem_listed {view : View} (published : view.Published) {path : Path}
    (names : path.HasNames) {node : Node} (member : node ∈ view.listed path) :
    ∃ name, IsSegment name ∧ node.path = (path.child name).text := by
  rw [listed] at member
  split_ifs at member with above inside
  · obtain ⟨below, rfl⟩ := (parent?_eq_some_iff _ _).mp above
    have present : view.mountPoint.segments ≠ [] := fun empty => below (congrArg Path.mk empty)
    have isChild : view.mountPoint.up.child (view.mountPoint.segments.getLast present) =
        view.mountPoint := congrArg Path.mk (List.dropLast_concat_getLast present)
    refine ⟨view.mountPoint.segments.getLast present, ?_, ?_⟩
    · exact published.plain.names.segments _ (List.getLast_mem present)
    · rw [isChild, List.mem_singleton.mp member]
      rfl
  · rw [children_text _ names] at member
    obtain ⟨descriptor, among, rfl⟩ := List.mem_map.mp member
    have segment := published.segments _ descriptor among
    exact ⟨descriptor.name, segment, path_ofDescriptor names.segments segment⟩
  · simp at member

/-- Two paths that list the same nodes are one, unless they list nothing. -/
theorem listed_eq_iff {view : View} (published : view.Published) {path other : Path}
    (names : path.HasNames) (otherNames : other.HasNames) :
    view.listed path = view.listed other ↔
      path = other ∨ (view.listed path = [] ∧ view.listed other = []) := by
  constructor
  · intro same
    cases shape : view.listed path with
    | nil => exact .inr ⟨rfl, by rw [← same, shape]⟩
    | cons node rest =>
        have member : node ∈ view.listed path := by simp [shape]
        obtain ⟨name, segment, isText⟩ := exists_child_of_mem_listed published names member
        obtain ⟨otherName, otherSegment, otherText⟩ :=
          exists_child_of_mem_listed published otherNames (same ▸ member)
        have equal := text_injective (names.segments.child segment)
          (otherNames.segments.child otherSegment) (isText.symm.trans otherText)
        left
        rw [← up_child path name, equal, up_child]
  · intro either
    rcases either with rfl | ⟨empty, otherEmpty⟩
    · rfl
    · rw [empty, otherEmpty]

end View

/-- From the mount point on, the children that a tree shows are listed. -/
theorem Snapshot.HoldsAt.listed_follow {snapshot : Snapshot} {mount : Path} {tree : Tree}
    (holds : snapshot.HoldsAt mount tree) {trail : List String} {node : Descriptor}
    {children : List Descriptor} (names : (mount.follow trail).HasNames)
    (shown : Tree.Shows (lastPiece mount.text) tree trail node children) :
    View.listed ⟨snapshot, mount⟩ (mount.follow trail) =
      children.map (Node.ofDescriptor (mount.follow trail).text) := by
  have notAbove : mount.parent? ≠ some (mount.follow trail) := by
    rw [Ne, parent?_eq_some_iff]
    intro above
    have counted := congrArg Path.depth above.2
    have notEmpty : mount.depth ≠ 0 := fun none =>
      holds.below (congrArg Path.mk (List.length_eq_zero_iff.mp none))
    simp only [Path.depth, Path.up, segments_follow, List.length_dropLast,
      List.length_append] at counted notEmpty
    omega
  have inside : mount.isAncestorOrSelf (mount.follow trail) = true :=
    List.isPrefixOf_iff_prefix.mpr (List.prefix_append _ _)
  rw [View.listed, if_neg notAbove, if_pos inside, View.children_text _ names,
    holds.children_follow shown]

namespace Mount

variable {σ : Type} {store : Store σ} {limit : Nat} {config : MountConfig} {state : σ}
  {mount : Mount}

/-- The query that lists a path brings what there is to list before the first starred segment of
the path. That is what there is to list at the path exactly when it has no such segment or nothing
is listed in either place. Every row tells what its node is. -/
theorem rows_listing
    (activated : (store.run (activate limit config) state).1 = some (.ok mount)) {path : Path}
    (names : path.HasNames) :
    (mount.view.listing path).rows.map Row.node = mount.view.listed path.beforeStar ∧
    ((mount.view.listing path).rows.map Row.node = mount.view.listed path ↔
      (∀ segment ∈ path.segments, isStarred segment = false) ∨
        (mount.view.listed path = [] ∧ mount.view.listed path.beforeStar = [])) ∧
    ∀ row ∈ (mount.view.listing path).rows, row.Tells := by
  have published := published_of_activate activated
  have brought : (mount.view.listing path).rows.map Row.node =
      mount.view.listed path.beforeStar := by
    rw [Query.rows, List.map_map, View.nodes_listing published names]
    exact List.map_id _
  refine ⟨brought, ?_, ?_⟩
  · rw [brought, eq_comm, View.listed_eq_iff published names names.beforeStar, eq_comm,
      beforeStar_eq_self_iff]
  · intro row member
    obtain ⟨node, among, rfl⟩ := List.mem_map.mp member
    rw [View.nodes_listing published names, View.listed] at among
    split_ifs at among
    · rw [List.mem_singleton.mp among]
      exact Row.tells_virtualFolder _
    · obtain ⟨descriptor, -, rfl⟩ := List.mem_map.mp among
      exact Row.tells_ofDescriptor _ descriptor
    · simp at among

/-! ## A starred path in the sample store -/

/-- The folder of the sample store lists its one file. -/
theorem listed_sampleTree :
    ((View.ofSnapshot (Snapshot.empty.plant "/content/dropbox" sampleTree)
      "/content/dropbox").listed ⟨["content", "dropbox", "notes"]⟩).map Node.path =
        ["/content/dropbox/notes/a.txt"] := by
  have plain : ∀ name ∈ ["content", "dropbox", "notes"], IsPlainName name := by decide
  have names : (Path.mk ["content", "dropbox", "notes"]).HasNames :=
    HasPlainNames.names plain
  have isPath : parse "/content/dropbox" = ⟨["content", "dropbox"]⟩ := by decide
  have isText : (Path.mk ["content", "dropbox"]).text = "/content/dropbox" := by decide
  have holds := Snapshot.holdsAt_plant sampleTree_wellNamed.named.segments
    sampleTree_wellNamed.distinct (show Path.mk ["content", "dropbox"] ≠ root by decide) names.up
  have shown : Tree.Shows (lastPiece (Path.mk ["content", "dropbox"]).text) sampleTree ["notes"]
      (.folder "notes") [.file "a.txt"] :=
    .down _ "" "/" List.mem_cons_self (.here "notes" _)
  have listed := holds.listed_follow names shown
  rw [isText] at listed
  rw [View.ofSnapshot, isPath]
  refine (congrArg (List.map Node.path) listed).trans ?_
  decide

/-- The file is also listed at a starred path below the folder, where there is nothing to list. -/
theorem rows_listing_sampleStore :
    ∃ mount : Mount,
      (∃ limit, (sampleStore.run (activate limit { remotePath := "/" }) ()).1 =
        some (.ok mount)) ∧
      (mount.view.listing ⟨["content", "dropbox", "notes", "*"]⟩).rows.map Row.path =
        ["/content/dropbox/notes/a.txt"] ∧
      (mount.view.listing ⟨["content", "dropbox", "notes", "*"]⟩).rows.map Row.node ≠
        mount.view.listed ⟨["content", "dropbox", "notes", "*"]⟩ := by
  have accepted : ({ remotePath := "/" } : MountConfig).validatePaths = .ok () := by decide
  obtain ⟨mount, ⟨enough, ends⟩, isView⟩ := exists_of_build accepted
    (Snapshot.build_plants sampleTree_servedAt "/content/dropbox")
  have activated := ends enough (Nat.le_refl enough)
  have plain : ∀ name ∈ ["content", "dropbox", "notes", "*"], IsPlainName name := by decide
  obtain ⟨brought, sameIff, -⟩ := rows_listing activated (HasPlainNames.names plain)
  have cut : (Path.mk ["content", "dropbox", "notes", "*"]).beforeStar =
      ⟨["content", "dropbox", "notes"]⟩ := by decide
  have listed := listed_sampleTree
  rw [← isView] at listed
  refine ⟨mount, ⟨enough, activated⟩, ?_, ?_⟩
  · have paths := congrArg (List.map Node.path) brought
    rw [cut, listed, List.map_map] at paths
    exact paths
  · rw [Ne, sameIff, cut]
    rintro (unstarred | empty)
    · exact absurd unstarred (by decide)
    · simp [empty.2] at listed

end Mount

end ContentMount
