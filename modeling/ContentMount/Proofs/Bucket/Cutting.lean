/-
This file cuts the listings of a bucket into pages of a size. Keys and common starts stand in one
ascending order, and each page takes the next of them.
-/

import ContentMount.Proofs.Bucket.Depiction
import ContentMount.Proofs.Bucket.Service
import Mathlib.Data.List.Sort

namespace ContentMount.Remote.Bucket

open ContentMount.Path

/-! ## Pages of a size -/

section

variable {α : Type}

/-- The page with a number. -/
def pageAt (size : Nat) (rows : List α) (number : Nat) : List α :=
  (rows.drop (number * size)).take size

/-- The number of pages. An empty list has one. -/
def pageCount (size : Nat) (rows : List α) : Nat :=
  max 1 ((rows.length + (size - 1)) / size)

/-- The pages of a size, which are full but for the last one. -/
def cut (size : Nat) (rows : List α) : List (List α) :=
  (List.range (pageCount size rows)).map (pageAt size rows)

theorem mem_pageAt {size number : Nat} {rows : List α} (positive : 0 < size) {row : α} :
    row ∈ pageAt size rows number ↔ ∃ place, rows[place]? = some row ∧ place / size = number := by
  rw [pageAt, List.mem_iff_getElem?]
  simp only [List.getElem?_take, List.getElem?_drop]
  constructor
  · rintro ⟨offset, found⟩
    split_ifs at found with inside
    refine ⟨number * size + offset, found, ?_⟩
    rw [Nat.mul_comm, Nat.mul_add_div positive, Nat.div_eq_of_lt inside, Nat.add_zero]
  · rintro ⟨place, found, rfl⟩
    refine ⟨place % size, ?_⟩
    rw [if_pos (Nat.mod_lt place positive), Nat.div_add_mod', found]

/-- The pages have room for all rows. -/
theorem length_le_pageCount_mul {size : Nat} (positive : 0 < size) (rows : List α) :
    rows.length ≤ pageCount size rows * size := by
  have split := Nat.div_add_mod' (rows.length + (size - 1)) size
  have small := Nat.mod_lt (rows.length + (size - 1)) positive
  have room := Nat.mul_le_mul_right size
    (Nat.le_max_right 1 ((rows.length + (size - 1)) / size))
  rw [pageCount]
  omega

/-- A page with rows on it is one of the pages. -/
theorem lt_pageCount {size place : Nat} {rows : List α} (positive : 0 < size)
    (inside : place < rows.length) : place / size < pageCount size rows :=
  (Nat.div_lt_iff_lt_mul positive).mpr (inside.trans_le (length_le_pageCount_mul positive rows))

/-- The first pages are the first rows. -/
theorem flatten_pages (size : Nat) (rows : List α) (count : Nat) :
    ((List.range count).map (pageAt size rows)).flatten = rows.take (count * size) := by
  induction count with
  | zero => simp
  | succ count ih =>
      rw [List.range_succ, List.map_append, List.flatten_append, ih, Nat.succ_mul, List.take_add]
      simp [pageAt]

theorem flatten_cut {size : Nat} (positive : 0 < size) (rows : List α) :
    (cut size rows).flatten = rows := by
  rw [cut, flatten_pages, List.take_of_length_le (length_le_pageCount_mul positive rows)]

/-- A relation holds between the rows of each page and those of later pages when it holds between
rows whose places are on different pages. -/
theorem pairwise_cut_iff {size : Nat} (positive : 0 < size) {rows : List α}
    {related : α → α → Prop} :
    (cut size rows).Pairwise (fun page later =>
        ∀ row ∈ page, ∀ other ∈ later, related row other) ↔
      ∀ place later row other, rows[place]? = some row → rows[later]? = some other →
        place / size < later / size → related row other := by
  rw [cut, List.pairwise_map, List.pairwise_iff_getElem]
  simp only [List.length_range, List.getElem_range, mem_pageAt positive]
  constructor
  · intro pages place later row other found otherFound before
    have inside := (List.getElem?_eq_some_iff.mp otherFound).1
    have last := lt_pageCount positive inside
    exact pages _ _ (before.trans last) last before row ⟨place, found, rfl⟩ other
      ⟨later, otherFound, rfl⟩
  · rintro places number later - - before row ⟨place, found, rfl⟩ other ⟨place', found', rfl⟩
    exact places place place' row other found found' before

/-- A list is split by a test when what fails it comes last. -/
theorem filter_append_filter_not {test : α → Bool} {values : List α}
    (sorted : values.Pairwise fun first second => test second = true → test first = true) :
    values.filter test ++ values.filter (fun value => !test value) = values := by
  induction values with
  | nil => rfl
  | cons value rest ih =>
      obtain ⟨here, later⟩ := List.pairwise_cons.mp sorted
      cases kept : test value with
      | true => simpa [kept] using ih later
      | false =>
          have none : ∀ other ∈ rest, test other = false := by
            intro other member
            by_contra passes
            have first := here other member (by simpa using passes)
            simp [kept] at first
          rw [List.filter_eq_nil_iff.mpr (by simpa [kept] using none),
            List.filter_eq_self.mpr (by simpa [kept] using none), List.nil_append]

/-- Values that pass a test and values that are mapped are together no more than all values when
no value does both. -/
theorem length_filterMap_add_length_filter_le {β : Type} {value? : α → Option β}
    {test : α → Bool} (apart : ∀ value, test value = true → value? value = none)
    (values : List α) :
    (values.filterMap value?).length + (values.filter test).length ≤ values.length := by
  induction values with
  | nil => simp
  | cons value rest ih =>
      cases passes : test value with
      | true =>
          simp only [List.filterMap_cons, apart value passes, List.filter_cons, passes, if_true,
            List.length_cons]
          omega
      | false =>
          have more := List.length_filterMap_le value? [value]
          rw [← List.singleton_append, List.filterMap_append, List.filter_append]
          simp [passes] at more ⊢
          omega

end

/-! ## Listings in ascending order -/

/-- A row of a listing is a key, or the common start of some. -/
inductive Row where
  | key (text : String)
  | start (text : String)
  deriving DecidableEq

namespace Row

def text : Row → String
  | .key text => text
  | .start text => text

def key? : Row → Option String
  | .key text => some text
  | .start _ => none

def start? : Row → Option String
  | .key _ => none
  | .start text => some text

end Row

/-- The rows of the listing below a start, in ascending order. -/
def rows (keys : List String) (start : String) : List Row :=
  ((plainStarts keys start).map Row.start ++ (plainObjects keys start).map Row.key).insertionSort
    fun first second => first.text ≤ second.text

/-- The entries of a page of rows: folders first and then files. -/
def entriesOfRows (start : String) (page : List Row) : List Entry :=
  (page.filterMap Row.start?).map folderOf ++
    ((page.filterMap Row.key?).filter (· != start)).map fileOf

theorem rows_perm (keys : List String) (start : String) :
    (rows keys start).Perm
      ((plainStarts keys start).map Row.start ++ (plainObjects keys start).map Row.key) :=
  List.perm_insertionSort _ _

/-- A listing has no more rows than the bucket has keys: no key stands directly below a start and
below a common start at once. -/
theorem length_rows_le (keys : List String) (start : String) :
    (rows keys start).length ≤ keys.length := by
  rw [(rows_perm keys start).length_eq, List.length_append, List.length_map, List.length_map]
  have starts := (List.dedup_sublist ((keys.filterMap fun key =>
    (after? start key).bind firstName?).map fun name => start ++ name ++ "/")).length_le
  rw [List.length_map] at starts
  have objects := ((List.dedup_sublist keys).filter fun key =>
    (after? start key).any fun rest => !rest.toList.contains '/').length_le
  refine (Nat.add_le_add starts objects).trans (length_filterMap_add_length_filter_le ?_ keys)
  intro key direct
  obtain ⟨rest, found, slashless⟩ := (Option.any_eq_true _ _).mp direct
  simpa [found, firstName?] using slashless

/-- A service cuts its listings into pages of a size when each page has the next rows. -/
structure Hosting.CutInto {σ : Type} {respond : (call : Call) → StateM σ call.Answer}
    {keys : List String} (hosting : Hosting respond keys) (size : Nat) : Prop where
  positive : 0 < size
  pages : ∀ start, (hosting.pages start).map (fun found => (found.starts, found.objects)) =
    (cut size (rows keys start)).map fun page =>
      (page.filterMap Row.start?, page.filterMap Row.key?)

section

variable {σ : Type} {transport : Transport σ} {client : Client} {keys : List String}
  {hosting : Hosting (transport.bucket client) keys} {size : Nat}

/-- The entries below a start come page by page. -/
theorem Hosting.CutInto.order_eq (isCut : hosting.CutInto size) (start : String) :
    hosting.order start = (cut size (rows keys start)).flatMap (entriesOfRows start) := by
  let entries (parts : List String × List String) : List Entry :=
    parts.1.map folderOf ++ (parts.2.filter (· != start)).map fileOf
  calc hosting.order start
      = ((hosting.pages start).map fun found => (found.starts, found.objects)).flatMap
          entries := by
        rw [Hosting.order, liveEntries_pages, List.flatMap_map]
        rfl
    _ = (cut size (rows keys start)).flatMap (entriesOfRows start) := by
        rw [isCut.pages, List.flatMap_map]
        rfl

end

/-! ## Folders before files -/

/-- Folders come first when only folders stand before a folder. -/
def FoldersLead (entries : List Entry) : Prop :=
  entries.Pairwise fun first second => second.kind = .folder → first.kind = .folder

/-- The listing below a start fits into pages of a size when no key stands on an earlier page than
a common start. The key that marks the folder itself does not count. -/
def FitsPage (keys : List String) (size : Nat) (start : String) : Prop :=
  ∀ place later key common, (rows keys start)[place]? = some (.key key) → key ≠ start →
    (rows keys start)[later]? = some (.start common) → later / size ≤ place / size

@[simp] theorem kind_folderOf (start : String) : (folderOf start).kind = .folder := rfl

@[simp] theorem kind_fileOf (key : String) : (fileOf key).kind = .file := rfl

theorem mem_entriesOfRows {start : String} {page : List Row} {entry : Entry} :
    entry ∈ entriesOfRows start page ↔ (∃ common, .start common ∈ page ∧ folderOf common = entry) ∨
      ∃ key, (.key key ∈ page ∧ key ≠ start) ∧ fileOf key = entry := by
  have isStart (row : Row) (common : String) : row.start? = some common ↔ row = .start common := by
    cases row <;> simp [Row.start?]
  have isKey (row : Row) (key : String) : row.key? = some key ↔ row = .key key := by
    cases row <;> simp [Row.key?]
  simp [entriesOfRows, isStart, isKey]

/-- Folders come first on every page. -/
theorem foldersLead_entriesOfRows (start : String) (page : List Row) :
    FoldersLead (entriesOfRows start page) := by
  rw [FoldersLead, entriesOfRows, List.pairwise_append]
  refine ⟨?_, ?_, ?_⟩
  · exact List.pairwise_map.mpr (List.pairwise_of_forall fun _ _ _ => rfl)
  · exact List.pairwise_map.mpr (List.pairwise_of_forall fun _ _ isFolder => nomatch isFolder)
  · intro folder member _ _ _
    obtain ⟨common, -, rfl⟩ := List.mem_map.mp member
    rfl

theorem filter_folders_entriesOfRows (start : String) (page : List Row) :
    ((entriesOfRows start page).filter fun entry => entry.kind == .folder) =
      (page.filterMap Row.start?).map folderOf := by
  simp [entriesOfRows, List.filter_map, Function.comp_def]

theorem filter_others_entriesOfRows (start : String) (page : List Row) :
    ((entriesOfRows start page).filter fun entry => !(entry.kind == .folder)) =
      ((page.filterMap Row.key?).filter (· != start)).map fileOf := by
  have other : (EntryKind.file == EntryKind.folder) = false := rfl
  simp [entriesOfRows, List.filter_map, Function.comp_def, other]

/-- Between two pages folders come first unless the first page has a key and the second one a
common start. -/
theorem lead_between_iff {start : String} {page later : List Row} :
    (∀ first ∈ entriesOfRows start page, ∀ second ∈ entriesOfRows start later,
        second.kind = .folder → first.kind = .folder) ↔
      ∀ row ∈ page, ∀ other ∈ later, ∀ key common, row = .key key → key ≠ start →
        other ≠ .start common := by
  constructor
  · rintro lead _ inside _ others key common rfl proper rfl
    have file := mem_entriesOfRows.mpr (.inr ⟨key, ⟨inside, proper⟩, rfl⟩)
    have folder : folderOf common ∈ entriesOfRows start later :=
      mem_entriesOfRows.mpr (.inl ⟨common, others, rfl⟩)
    exact nomatch lead _ file _ folder rfl
  · intro apart first member second otherMember isFolder
    rcases mem_entriesOfRows.mp member with ⟨_, _, rfl⟩ | ⟨key, ⟨inside, proper⟩, rfl⟩
    · rfl
    · rcases mem_entriesOfRows.mp otherMember with ⟨common, others, rfl⟩ | ⟨_, _, rfl⟩
      · exact absurd rfl (apart _ inside _ others key common rfl proper)
      · exact nomatch isFolder

section

variable {σ : Type} {transport : Transport σ} {client : Client} {keys : List String}
  {hosting : Hosting (transport.bucket client) keys} {size : Nat}

/-- Folders come first in a listing exactly when it fits into its pages. -/
theorem Hosting.CutInto.foldersLead_iff (isCut : hosting.CutInto size) (start : String) :
    FoldersLead (hosting.order start) ↔ FitsPage keys size start := by
  have each : ∀ page ∈ cut size (rows keys start), (entriesOfRows start page).Pairwise
      fun first second => second.kind = .folder → first.kind = .folder :=
    fun page _ => foldersLead_entriesOfRows start page
  rw [FoldersLead, isCut.order_eq, List.pairwise_flatMap, and_iff_right each,
    List.Pairwise.iff fun _ _ => lead_between_iff, pairwise_cut_iff isCut.positive, FitsPage]
  constructor
  · intro apart place later key common found proper otherFound
    by_contra before
    exact apart place later _ _ found otherFound (Nat.lt_of_not_le before) key common rfl proper rfl
  · rintro fits place later _ _ found otherFound before key common rfl proper rfl
    exact absurd (fits place later key common found proper otherFound) (Nat.not_le_of_lt before)

/-- A listing that fits into its pages has its folders and then its files in ascending order. -/
theorem Hosting.CutInto.order_of_fits (isCut : hosting.CutInto size) {start : String}
    (fits : FitsPage keys size start) :
    hosting.order start = ((rows keys start).filterMap Row.start?).map folderOf ++
      (((rows keys start).filterMap Row.key?).filter (· != start)).map fileOf := by
  have lead : (hosting.order start).Pairwise fun first second =>
      (second.kind == .folder) = true → (first.kind == .folder) = true := by
    simpa [FoldersLead] using (isCut.foldersLead_iff start).mpr fits
  rw [← filter_append_filter_not lead, isCut.order_eq, List.filter_flatMap, List.filter_flatMap]
  simp only [filter_folders_entriesOfRows, filter_others_entriesOfRows]
  have joined := flatten_cut isCut.positive (rows keys start)
  generalize cut size (rows keys start) = pages at joined
  rw [← joined]
  simp only [List.filterMap_flatten, List.filter_flatten, List.map_flatten, List.map_map,
    List.flatMap_def, Function.comp_def]

end

end ContentMount.Remote.Bucket
