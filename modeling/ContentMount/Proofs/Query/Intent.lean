/-
This file says what a statement asks for: the plain roots right below the path that it lists, or
else the children of that path. The answer depends on the set of the roots alone.
-/

import ContentMount.Query.Intent
import Mathlib.Data.List.Infix
import Mathlib.Data.List.Sort
import Mathlib.Data.String.Basic

namespace ContentMount

/-! ## The path that a statement lists -/

namespace Statement

/-- A listing has a body between the anchor and its own end. The body starts with a slash and
ends with the ending. -/
structure IsListing (statement : String) (body : List Char) : Prop where
  anchored : statement.toList = anchor ++ body
  rooted : body.head? = some '/'
  ended : ending <:+ body

/-- The front stands before the first slash that a star follows. -/
structure StarsAfter (front body : List Char) : Prop where
  split : front ++ ['/', '*'] <+: body
  first : ∀ other, other ++ ['/', '*'] <+: body → front.length ≤ other.length

/-- There is only one first slash that a star follows. -/
theorem StarsAfter.unique {front other body : List Char} (stars : StarsAfter front body)
    (otherStars : StarsAfter other body) : front = other := by
  have sameLength : front.length = other.length :=
    Nat.le_antisymm (stars.first other otherStars.split) (otherStars.first front stars.split)
  have fronts : front <+: other :=
    List.prefix_of_prefix_length_le ((List.prefix_append _ _).trans stars.split)
      ((List.prefix_append _ _).trans otherStars.split) sameLength.le
  exact fronts.eq_of_length sameLength

/-- A text starts with a slash and a star, or both stand together only later. -/
theorem starred_head_iff (c : Char) (rest : List Char) :
    (c == '/' && rest.head? == some '*') = true ↔ ['/', '*'] <+: c :: rest := by
  cases rest with
  | nil => simp
  | cons d rest =>
      simp only [List.head?_cons, Bool.and_eq_true, beq_iff_eq, Option.some.injEq,
        List.cons_prefix_cons, List.nil_prefix, and_true]
      exact and_congr eq_comm eq_comm

theorem beforeStar_eq_some_iff {front body : List Char} :
    beforeStar body = some front ↔ StarsAfter front body := by
  induction body generalizing front with
  | nil =>
      constructor
      · simp [beforeStar]
      · rintro ⟨split, -⟩
        simp at split
  | cons c rest ih =>
      by_cases starred : ['/', '*'] <+: c :: rest
      · have now : beforeStar (c :: rest) = some [] := by
          rw [beforeStar, if_pos ((starred_head_iff c rest).mpr starred)]
        have starsNow : StarsAfter [] (c :: rest) := ⟨starred, fun _ _ => Nat.zero_le _⟩
        rw [now]
        constructor
        · rintro ⟨⟩
          exact starsNow
        · intro stars
          rw [stars.unique starsNow]
      · have later : beforeStar (c :: rest) = (beforeStar rest).map (c :: ·) := by
          rw [beforeStar, if_neg (mt (starred_head_iff c rest).mp starred)]
        rw [later]
        cases front with
        | nil =>
            constructor
            · simp
            · intro stars
              exact absurd stars.split starred
        | cons d front =>
            have step : StarsAfter (d :: front) (c :: rest) ↔ d = c ∧ StarsAfter front rest := by
              constructor
              · intro stars
                obtain ⟨same, split⟩ := List.cons_prefix_cons.mp stars.split
                refine ⟨same, split, fun other otherSplit => ?_⟩
                have shorter := stars.first (c :: other)
                  (List.cons_prefix_cons.mpr ⟨rfl, otherSplit⟩)
                simpa using shorter
              · rintro ⟨rfl, split, first⟩
                refine ⟨List.cons_prefix_cons.mpr ⟨rfl, split⟩, fun other otherSplit => ?_⟩
                cases other with
                | nil => exact absurd otherSplit starred
                | cons e other =>
                    have shorter := first other (List.cons_prefix_cons.mp otherSplit).2
                    simpa using shorter
            rw [step, ← ih]
            simp [eq_comm, and_comm]

/-- A text in which a star follows a slash somewhere has a front before the first such slash. -/
theorem exists_starsAfter {body : List Char} (starred : ['/', '*'] <:+: body) :
    ∃ front, StarsAfter front body := by
  simp only [← beforeStar_eq_some_iff]
  induction body with
  | nil => simp at starred
  | cons c rest ih =>
      rw [beforeStar]
      split
      · exact ⟨[], rfl⟩
      · next unstarred =>
        have later : ['/', '*'] <:+: rest :=
          (List.infix_cons_iff.mp starred).resolve_left
            (mt (starred_head_iff c rest).mpr unstarred)
        obtain ⟨front, found⟩ := ih later
        exact ⟨c :: front, by rw [found]; rfl⟩

/-- The anchor and the ending do not overlap. -/
theorem ending_suffix_of_suffix_append {body : List Char} (suffixed : ending <:+ anchor ++ body) :
    ending <:+ body := by
  rcases List.suffix_or_suffix_of_suffix suffixed (List.suffix_append anchor body) with
    within | ⟨overlap, isEnding⟩
  · exact within
  · obtain ⟨front, split⟩ := suffixed
    rw [← isEnding, ← List.append_assoc] at split
    have inAnchor : overlap <:+ anchor := ⟨front, List.append_cancel_right split⟩
    have apart : ∀ tail ∈ anchor.tails, tail <+: ending → tail = [] := by decide
    have none := apart overlap ((List.mem_tails overlap anchor).mpr inAnchor) ⟨body, isEnding⟩
    exact ⟨[], by rw [← isEnding, none]; rfl⟩

/-- A listing has a front, as the ending holds a slash that a star follows. -/
theorem exists_starsAfter_of_ended {body : List Char} (ended : ending <:+ body) :
    ∃ front, StarsAfter front body :=
  exists_starsAfter (List.IsInfix.trans ⟨[], ending.drop 2, rfl⟩ ended.isInfix)

/-- From a listing the path before the first star is read. -/
theorem IsListing.listedPath?_eq {statement : String} {body front : List Char}
    (listing : IsListing statement body) (stars : StarsAfter front body) :
    listedPath? statement = some (Path.parse (String.ofList front)) := by
  have anchored : anchor.isPrefixOf (anchor ++ body) = true :=
    List.isPrefixOf_iff_prefix.mpr (List.prefix_append anchor body)
  have ended : ending.isSuffixOf (anchor ++ body) = true :=
    List.isSuffixOf_iff_suffix.mpr (listing.ended.trans (List.suffix_append anchor body))
  simp only [listedPath?, listing.anchored, List.drop_left, anchored, listing.rooted, ended,
    BEq.rfl, Bool.and_self, if_true, beforeStar_eq_some_iff.mpr stars, Option.map_some]

/-- A statement that starts and ends like a listing is one. -/
theorem isListing_of_ended {statement : String} {body : List Char}
    (anchored : statement.toList = anchor ++ body) (rooted : body.head? = some '/')
    (ended : ending <:+ statement.toList) : IsListing statement body :=
  ⟨anchored, rooted, ending_suffix_of_suffix_append (anchored ▸ ended)⟩

/-- A path is read from listings alone. -/
theorem exists_isListing_of_listedPath? {statement : String} {path : Path}
    (read : listedPath? statement = some path) : ∃ body, IsListing statement body := by
  simp only [listedPath?] at read
  split at read
  · next tests =>
    simp only [Bool.and_eq_true, List.isPrefixOf_iff_prefix, List.isSuffixOf_iff_suffix,
      beq_iff_eq] at tests
    obtain ⟨⟨⟨body, split⟩, rooted⟩, ended⟩ := tests
    rw [← split, List.drop_left] at rooted
    exact ⟨body, isListing_of_ended split.symm rooted ended⟩
  · cases read

end Statement

namespace QueryIntent

/-! ## Sorted texts without repetitions -/

section Repetition

variable {α : Type} [BEq α]

/-- What was passed over before stays in front. -/
theorem eraseRepsBy_loop (list : List α) (a : α) (passed : List α) :
    List.eraseRepsBy.loop (· == ·) a list passed = passed.reverse ++ (a :: list).eraseReps := by
  change _ = passed.reverse ++ List.eraseRepsBy.loop (· == ·) a list []
  induction list generalizing a passed with
  | nil => simp [List.eraseRepsBy.loop]
  | cons b list ih =>
      cases same : a == b with
      | true => simp only [List.eraseRepsBy.loop, same, ih a passed]
      | false =>
          simp only [List.eraseRepsBy.loop, same]
          rw [ih b (a :: passed), ih b [a]]
          simp

theorem eraseReps_cons_cons (a b : α) (list : List α) :
    (a :: b :: list).eraseReps =
      if a == b then (a :: list).eraseReps else a :: (b :: list).eraseReps := by
  change List.eraseRepsBy.loop (· == ·) a (b :: list) [] = _
  rw [List.eraseRepsBy.loop]
  cases same : a == b with
  | true => rfl
  | false => exact eraseRepsBy_loop list b [a]

variable [LawfulBEq α]

theorem mem_eraseReps {c : α} {list : List α} : c ∈ list.eraseReps ↔ c ∈ list := by
  cases list with
  | nil => rfl
  | cons a list =>
      induction list generalizing a with
      | nil => rfl
      | cons b list ih =>
          rw [eraseReps_cons_cons]
          split
          · next same =>
            rw [ih a, ← eq_of_beq same]
            simp
          · rw [List.mem_cons, ih b, ← List.mem_cons]

/-- In an ascending list repetitions stand side by side. -/
theorem pairwise_lt_eraseReps [PartialOrder α] {list : List α} (sorted : list.Pairwise (· ≤ ·)) :
    list.eraseReps.Pairwise (· < ·) := by
  cases list with
  | nil => exact List.Pairwise.nil
  | cons a list =>
      induction list generalizing a with
      | nil => exact List.pairwise_singleton _ a
      | cons b list ih =>
          obtain ⟨first, others⟩ := List.pairwise_cons.mp sorted
          rw [eraseReps_cons_cons]
          split
          · next same =>
            rw [eq_of_beq same]
            exact ih b others
          · next different =>
            refine List.pairwise_cons.mpr ⟨fun c member => ?_, ih b others⟩
            have below : a < b :=
              lt_of_le_of_ne (first b List.mem_cons_self) (by simpa using different)
            rcases List.mem_cons.mp (mem_eraseReps.mp member) with rfl | later
            · exact below
            · exact below.trans_le ((List.pairwise_cons.mp others).1 c later)

end Repetition

/-! ## The answer to a listing -/

/-- The path is one of the plain roots, and the listed path is its parent. -/
def Lists (roots : List QueryRoot) (path root : Path) : Prop :=
  QueryRoot.path root ∈ roots ∧ root.parent? = some path

/-- The intent of listing a path. The roots right below the path come first, as the ascending list
of their texts. Without them the children of the path are meant when it lies within some root. -/
structure Answers (roots : List QueryRoot) (path : Path) (intent : QueryIntent) : Prop where
  roots_iff : ∀ texts, intent = .roots texts ↔
    (∃ root, Lists roots path root) ∧ texts.Pairwise (· < ·) ∧
      ∀ text, text ∈ texts ↔ ∃ root, Lists roots path root ∧ root.text = text
  children_iff : ∀ text, intent = .children text ↔
    (¬ ∃ root, Lists roots path root) ∧ (∃ root ∈ roots, root.covers path = true) ∧
      text = path.text

theorem mem_rootsBelow {path : Path} {roots : List QueryRoot} {text : String} :
    text ∈ rootsBelow path roots ↔ ∃ root, Lists roots path root ∧ root.text = text := by
  rw [rootsBelow, mem_eraseReps, List.mem_mergeSort]
  simp only [List.mem_filterMap, List.mem_filter, beq_iff_eq]
  constructor
  · rintro ⟨root | pattern, ⟨member, below⟩, written⟩
    · exact ⟨root, ⟨member, below⟩, Option.some.inj written⟩
    · cases written
  · rintro ⟨root, ⟨member, below⟩, written⟩
    exact ⟨.path root, ⟨member, below⟩, congrArg some written⟩

theorem pairwise_rootsBelow (path : Path) (roots : List QueryRoot) :
    (rootsBelow path roots).Pairwise (· < ·) := by
  have sorted (texts : List String) :
      (texts.mergeSort fun first second => first ≤ second).Pairwise fun first second =>
        decide (first ≤ second) = true :=
    List.pairwise_mergeSort (fun first second third => by simpa using le_trans)
      (fun first second => by simpa using le_total first second) texts
  simp only [decide_eq_true_eq] at sorted
  exact pairwise_lt_eraseReps (sorted _)

/-- An ascending list is known by its members. -/
theorem rootsBelow_eq_iff {path : Path} {roots : List QueryRoot} {texts : List String} :
    rootsBelow path roots = texts ↔ texts.Pairwise (· < ·) ∧
      ∀ text, text ∈ texts ↔ ∃ root, Lists roots path root ∧ root.text = text := by
  constructor
  · rintro rfl
    exact ⟨pairwise_rootsBelow path roots, fun text => mem_rootsBelow⟩
  · rintro ⟨ascending, members⟩
    exact (pairwise_rootsBelow path roots).eq_of_mem_iff ascending fun text =>
      mem_rootsBelow.trans (members text).symm

theorem rootsBelow_eq_nil_iff {path : Path} {roots : List QueryRoot} :
    rootsBelow path roots = [] ↔ ¬ ∃ root, Lists roots path root := by
  rw [rootsBelow_eq_iff]
  simp

theorem ofPath_of_lists {path : Path} {roots : List QueryRoot}
    (some : ∃ root, Lists roots path root) :
    ofPath path roots = .roots (rootsBelow path roots) := by
  rw [ofPath]
  cases found : rootsBelow path roots with
  | nil => exact absurd some (rootsBelow_eq_nil_iff.mp found)
  | cons first others => rfl

theorem ofPath_of_not_lists {path : Path} {roots : List QueryRoot}
    (none : ¬ ∃ root, Lists roots path root) :
    ofPath path roots =
      if ∃ root ∈ roots, root.covers path = true then .children path.text else .unsupported := by
  rw [ofPath, rootsBelow_eq_nil_iff.mpr none]
  simp only [List.any_eq_true]

theorem answers_ofPath (path : Path) (roots : List QueryRoot) :
    Answers roots path (ofPath path roots) := by
  by_cases listed : ∃ root, Lists roots path root
  · rw [ofPath_of_lists listed]
    constructor
    · intro texts
      rw [QueryIntent.roots.injEq, rootsBelow_eq_iff]
      exact (and_iff_right listed).symm
    · intro text
      exact ⟨fun same => (by cases same), fun children => absurd listed children.1⟩
  · rw [ofPath_of_not_lists listed]
    constructor
    · intro texts
      refine ⟨fun same => ?_, fun answer => absurd answer.1 listed⟩
      split at same <;> cases same
    · intro text
      by_cases covered : ∃ root ∈ roots, root.covers path = true
      · rw [if_pos covered, QueryIntent.children.injEq]
        exact ⟨fun same => ⟨listed, covered, same.symm⟩, fun children => children.2.2.symm⟩
      · rw [if_neg covered]
        exact ⟨fun same => (by cases same), fun children => absurd children.2.1 covered⟩

/-- The set of the roots decides. -/
theorem ofPath_congr {roots others : List QueryRoot}
    (same : ∀ root, root ∈ others ↔ root ∈ roots) (path : Path) :
    ofPath path others = ofPath path roots := by
  have below : rootsBelow path others = rootsBelow path roots := by
    refine rootsBelow_eq_iff.mpr ⟨pairwise_rootsBelow path roots, fun text => ?_⟩
    simp only [mem_rootsBelow, Lists, same]
  have covered : (others.any fun root => root.covers path) =
      roots.any fun root => root.covers path := by
    rw [Bool.eq_iff_iff]
    simp only [List.any_eq_true, same]
  rw [ofPath, ofPath, below, covered]

/-- Only listings in the first language are understood. They are answered for the path before the
first slash that a star follows, and there is always one. The answer is the same for all lists
that hold the same roots. -/
theorem answers_ofStatement (statement language : String) (roots : List QueryRoot) :
    (ofStatement statement language roots ≠ .unsupported →
      language = Statement.xpath ∧ ∃ body, Statement.IsListing statement body) ∧
    (∀ body, statement.toList = Statement.anchor ++ body → body.head? = some '/' →
      Statement.ending <:+ statement.toList →
        Statement.IsListing statement body ∧
        ∃ front, Statement.StarsAfter front body ∧
          (language = Statement.xpath →
            Answers roots (Path.parse (String.ofList front))
              (ofStatement statement language roots))) ∧
    ∀ others : List QueryRoot, (∀ root, root ∈ others ↔ root ∈ roots) →
      ofStatement statement language others = ofStatement statement language roots := by
  refine ⟨fun understood => ?_, fun body anchored rooted ended => ?_, fun others same => ?_⟩
  · unfold ofStatement at understood
    split at understood
    · next isXpath =>
      split at understood
      · next path read =>
        exact ⟨eq_of_beq isXpath, Statement.exists_isListing_of_listedPath? read⟩
      · exact absurd rfl understood
    · exact absurd rfl understood
  · have listing := Statement.isListing_of_ended anchored rooted ended
    obtain ⟨front, stars⟩ := Statement.exists_starsAfter_of_ended listing.ended
    refine ⟨listing, front, stars, ?_⟩
    rintro rfl
    rw [ofStatement, listing.listedPath?_eq stars]
    exact answers_ofPath _ roots
  · unfold ofStatement
    simp only [ofPath_congr same]

/-- A pattern and a root that is named twice do not show in the answer. -/
theorem answers_ofStatement_twoRoots :
    ofStatement (Statement.listing ⟨["content"]⟩) Statement.xpath
      [.path ⟨["content", "b"]⟩, .glob "/content/*", .path ⟨["content", "a"]⟩,
        .path ⟨["content", "b"]⟩] = .roots ["/content/a", "/content/b"] := by
  have body : (Statement.listing ⟨["content"]⟩).toList =
      Statement.anchor ++ ("/content".toList ++ Statement.ending) := by decide
  have ended : Statement.ending <:+ (Statement.listing ⟨["content"]⟩).toList :=
    body ▸ ⟨Statement.anchor ++ "/content".toList, by rw [List.append_assoc]⟩
  obtain ⟨-, answered, -⟩ := answers_ofStatement (Statement.listing ⟨["content"]⟩) Statement.xpath
    [.path ⟨["content", "b"]⟩, .glob "/content/*", .path ⟨["content", "a"]⟩,
      .path ⟨["content", "b"]⟩]
  obtain ⟨-, front, stars, answers⟩ := answered _ body rfl ended
  have isFront : front = "/content".toList :=
    stars.unique (Statement.beforeStar_eq_some_iff.mp (by decide))
  subst isFront
  have isPath : Path.parse (String.ofList "/content".toList) = ⟨["content"]⟩ := by decide
  refine ((answers rfl).roots_iff _).mpr ⟨⟨⟨["content", "a"]⟩, ?_⟩, by decide, fun text => ?_⟩
  · rw [isPath]
    exact ⟨by decide, by decide⟩
  · rw [isPath]
    constructor
    · intro member
      rcases List.mem_pair.mp member with rfl | rfl
      · exact ⟨⟨["content", "a"]⟩, ⟨by decide, by decide⟩, by decide⟩
      · exact ⟨⟨["content", "b"]⟩, ⟨by decide, by decide⟩, by decide⟩
    · rintro ⟨root, ⟨member, -⟩, rfl⟩
      simp only [List.mem_cons, QueryRoot.path.injEq, reduceCtorEq, List.not_mem_nil, false_or,
        or_false] at member
      rcases member with rfl | rfl | rfl <;> decide

end QueryIntent

end ContentMount
