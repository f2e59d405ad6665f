/-
This file says which mount points are accepted: the texts of the paths of plain names below the
root.
-/

import ContentMount.Mount.Config
import ContentMount.Proofs.Path.Below

namespace ContentMount.MountConfig

open ContentMount.Path

theorem accept_eq_ok_iff (problem : Option ConfigProblem) :
    accept problem = .ok () ↔ problem = none := by
  cases problem <;> simp [accept]

/-- The paths of a configuration are accepted one by one. -/
theorem validatePaths_eq_ok_iff (config : MountConfig) :
    config.validatePaths = .ok () ↔
      mountProblem? config.mountPoint = none ∧ remoteProblem? config.remotePath = none := by
  rw [validatePaths, accept_eq_ok_iff, pathProblem?]
  cases mountProblem? config.mountPoint <;> simp

theorem isRelativePiece_eq_false_iff {piece : String} (slashless : '/' ∉ piece.toList) :
    isRelativePiece piece = false ↔ IsPlainName piece := by
  simp only [isRelativePiece, isIdle, Bool.or_eq_false_iff, beq_eq_false_iff_ne]
  constructor
  · intro kept
    obtain ⟨⟨nonempty, notPoint⟩, notPoints⟩ := kept
    exact ⟨⟨⟨nonempty, slashless⟩, notPoint⟩, notPoints⟩
  · intro plain
    exact ⟨⟨plain.nonempty, plain.notPoint⟩, plain.notPoints⟩

/-- An absolute text starts with an empty piece. -/
theorem pieces_eq_cons_of_isAbsolute {text : String} (absolute : isAbsolute text = true) :
    pieces text = "" :: (pieces text).tail := by
  obtain ⟨rest, split⟩ : ∃ rest, text.toList = '/' :: rest := by
    cases shape : text.toList with
    | nil => simp [isAbsolute, shape] at absolute
    | cons c rest =>
        rw [isAbsolute, shape] at absolute
        exact ⟨rest, by simpa using absolute⟩
  simp [pieces, split, List.splitOn_cons_eq_if_modifyHead]

theorem isAbsolute_text (path : Path) : isAbsolute path.text = true := by
  rcases path with ⟨_ | ⟨first, rest⟩⟩ <;> simp [isAbsolute, text]

/-- The accepted mount points are the texts of the paths of plain names below the root. -/
theorem mountProblem?_eq_none_iff (mountPoint : String) :
    mountProblem? mountPoint = none ↔
      ∃ path : Path, path ≠ root ∧ path.HasPlainNames ∧ path.text = mountPoint := by
  constructor
  · intro accepted
    simp only [mountProblem?] at accepted
    split_ifs at accepted with absolute top slash relative
    have start := pieces_eq_cons_of_isAbsolute (by simpa using absolute)
    have plain : (Path.mk (pieces mountPoint).tail).HasPlainNames := by
      intro piece member
      have slashless := slashless_of_mem_pieces (List.mem_of_mem_tail member)
      have kept : ¬isRelativePiece piece = true :=
        fun bad => relative (List.any_eq_true.mpr ⟨piece, member, bad⟩)
      exact (isRelativePiece_eq_false_iff slashless).mp (Bool.not_eq_true _ ▸ kept)
    have below : Path.mk (pieces mountPoint).tail ≠ root := by
      intro empty
      have single : pieces mountPoint = [""] := by
        have noTail : (pieces mountPoint).tail = [] := congrArg segments empty
        rw [start, noTail]
      have blank : mountPoint = "" := pieces_injective (single.trans (by decide))
      subst blank
      exact absolute (by decide)
    refine ⟨_, below, plain, pieces_injective ?_⟩
    rw [pieces_text below plain.names.segments, start]
    rfl
  · intro isText
    obtain ⟨path, below, plain, rfl⟩ := isText
    have proper := plain.names.segments
    have notSlash := text_ne_slash below proper
    obtain ⟨front, segment, -, isSegment, split⟩ := exists_text_eq_append below proper
    obtain ⟨rest, last, ends, kept⟩ := isSegment.exists_last
    have lastChar : path.text.toList.getLast? = some last := by
      have joined : path.text.toList = (front.toList ++ '/' :: rest) ++ [last] := by
        simp [split, ends]
      rw [joined, List.getLast?_concat]
    have notLast : last ≠ '/' := by simpa [isSlash] using kept
    have noneRelative : (pieces path.text).tail.any isRelativePiece = false := by
      rw [pieces_text below proper, List.tail_cons, List.any_eq_false]
      intro name member
      have isPlain := plain name member
      rw [(isRelativePiece_eq_false_iff isPlain.slashless).mpr isPlain]
      exact Bool.false_ne_true
    simp [mountProblem?, isAbsolute_text, notSlash, lastChar, notLast, noneRelative]

/-- An accepted mount point is the text of the path that is read from it. -/
theorem mountPoint_eq_text {mountPoint : String} (accepted : mountProblem? mountPoint = none) :
    parse mountPoint ≠ root ∧ (parse mountPoint).HasPlainNames ∧
      (parse mountPoint).text = mountPoint := by
  obtain ⟨path, below, plain, rfl⟩ := (mountProblem?_eq_none_iff mountPoint).mp accepted
  rw [parse_text plain.names]
  exact ⟨below, plain, rfl⟩

/-- The mount point of an accepted configuration is a path of plain names below the root. -/
theorem mountPoint_of_accepted {config : MountConfig} (accepted : config.validatePaths = .ok ()) :
    parse config.mountPoint ≠ root ∧ (parse config.mountPoint).HasPlainNames ∧
      (parse config.mountPoint).text = config.mountPoint :=
  mountPoint_eq_text ((validatePaths_eq_ok_iff config).mp accepted).1

end ContentMount.MountConfig
