import AgentTool.Loader
import Mathlib.Tactic.Common

/-!
# Loading from a base directory

A loader with a base directory resolves each path that it is given, and the files
of a directory and the path of a tool are given to it a second time, already
resolved.  A path that starts at the root is left as it is, so from a base that
starts at the root every path is resolved once, and the loader answers as one
without a base does for the joined path (`loads_from_base`).

| asked of the loader | paths are resolved |
| --- | --- |
| a file | once |
| a directory | once to list it, and twice to read its files |
| the tools of a path | twice, and three times to read the files of a directory |

From a base that does not start at the root the second time leads elsewhere: then
only single files are found (`compile_of_relative_base`).
-/

namespace AgentTool

namespace FilePath

variable {base path : String}

/-- A path that starts at the root is joined to nothing. -/
theorem join_of_isAbsolute (h : isAbsolute path = true) : join base path = path := if_pos h

/-- What is seen from a directory below the root starts at the root. -/
theorem isAbsolute_join (h : isAbsolute base = true) (path : String) :
    isAbsolute (join base path) = true := by
  have lead : ∀ tail : String, isAbsolute (base ++ tail) = true := by
    intro tail
    unfold isAbsolute at h ⊢
    rw [String.toList_append]
    cases hb : base.toList with
    | nil => simp [hb] at h
    | cons c cs => simpa [hb] using h
  unfold join
  split
  · assumption
  · split
    · exact lead path
    · rw [String.append_assoc]
      exact lead _

end FilePath

namespace Loader

open FilePath

variable {m : Type → Type}

/-- The loader without its base. -/
def unbased (l : Loader m) : Loader m := { files := l.files }

/-- A loader without a base leaves paths as they are. -/
@[simp] theorem unbased_resolve (l : Loader m) (path : String) : l.unbased.resolve path = path := rfl

/-- A path that starts at the root is left as it is. -/
theorem resolve_of_isAbsolute (l : Loader m) {path : String} (h : isAbsolute path = true) :
    l.resolve path = path := by
  unfold resolve
  cases l.base with
  | none => rfl
  | some base => exact join_of_isAbsolute h

variable [Monad m]

/-- A file is read at its resolved path. -/
theorem loadFile_eq (l : Loader m) (path : String) :
    l.loadFile path = l.unbased.loadFile (l.resolve path) := rfl

/-- Several files are read at their resolved paths. -/
theorem loadAll_eq (l : Loader m) (paths : List String) :
    l.loadAll paths = l.unbased.loadAll (paths.map l.resolve) := by
  induction paths with
  | nil => rfl
  | cons p ps ih => simp only [List.map_cons, loadAll, loadFile_eq l p, ih]

/-- The files of a directory are read at paths that are resolved again. -/
theorem loadDirectory_eq (l : Loader m) (path : String) :
    l.loadDirectory path = (do
      match ← l.files.list (l.resolve path) with
      | .error e => return .error (.load (l.resolve path) e.message none)
      | .ok names =>
        l.unbased.loadAll
          ((wanted names).map fun name => l.resolve (join (l.resolve path) name))) := by
  unfold loadDirectory
  refine congrArg (l.files.list (l.resolve path) >>= ·) (funext fun listed => ?_)
  cases listed with
  | error e => rfl
  | ok names => simp only [loadAll_eq l, List.map_map, Function.comp_def]

/-- Below a path that starts at the root nothing is resolved. -/
theorem loadDirectory_of_isAbsolute (l : Loader m) {path : String} (h : isAbsolute path = true) :
    l.loadDirectory path = l.unbased.loadDirectory path := by
  rw [loadDirectory_eq, loadDirectory_eq l.unbased]
  simp only [unbased_resolve, l.resolve_of_isAbsolute h,
    fun name => l.resolve_of_isAbsolute (isAbsolute_join h name)]
  rfl

/-- A directory is loaded as its resolved path is, if that starts at the root. -/
theorem loadDirectory_of_resolved (l : Loader m) {path : String}
    (h : isAbsolute (l.resolve path) = true) :
    l.loadDirectory path = l.unbased.loadDirectory (l.resolve path) := by
  rw [← loadDirectory_of_isAbsolute l h, loadDirectory_eq, loadDirectory_eq l (l.resolve path),
    l.resolve_of_isAbsolute h]

/-- A path is loaded as its resolved path is, if that starts at the root. -/
theorem load_of_resolved (l : Loader m) {path : String}
    (h : isAbsolute (l.resolve path) = true) :
    l.load path = l.unbased.load (l.resolve path) := by
  unfold load
  simp only [unbased_resolve, loadDirectory_of_isAbsolute l h, loadFile_eq l (l.resolve path),
    l.resolve_of_isAbsolute h]
  rfl

/-- The names of the files that are read are in order. -/
theorem pairwise_wanted (names : List (String × Bool)) :
    (wanted names).Pairwise (· ≤ ·) := by
  let le (a b : String) : Bool := decide (a ≤ b)
  have htrans : ∀ a b c, le a b → le b c → le a c := by
    simpa [le] using fun a b c => String.le_trans
  have htotal : ∀ a b, le a b || le b a := by
    simpa [le] using String.le_total
  have h := List.pairwise_mergeSort htrans htotal
    ((names.filter fun n => n.2 && (Format.ofPath? n.1).isSome).map (·.1))
  simpa [wanted, le] using h

/-- **A base is applied once.**  From any base a file is loaded as it is without a base at the
joined path.  From a base that starts at the root this holds of directories and of tools as
well: the same documents come in the order of the file names, or the same error does. -/
theorem loads_from_base (files : FileAccess m) (base path : String) :
    let based : Loader m := { files, base := some base }
    let bare : Loader m := { files }
    based.loadFile path = bare.loadFile (join base path) ∧
      (isAbsolute base = true →
        based.loadDirectory path = bare.loadDirectory (join base path) ∧
        based.load path = bare.load (join base path) ∧
        based.compile path = bare.compile (join base path)) ∧
      ∀ names, (wanted names).Pairwise (· ≤ ·) := by
  intro based bare
  refine ⟨based.loadFile_eq path, fun hb => ?_, pairwise_wanted⟩
  have hload : based.load path = bare.load (join base path) :=
    based.load_of_resolved (isAbsolute_join hb path)
  refine ⟨based.loadDirectory_of_resolved (isAbsolute_join hb path), hload, ?_⟩
  unfold compile
  rw [hload]

/-- A directory below another, with one file that holds no documents. -/
def emptyDefinitions : FileTree :=
  .directory [("tools", .directory [("defs", .directory [("a.json", .file (some "[]"))])])]

/-- From the root the directory is loaded alike with a base and without. -/
theorem loadDirectory_of_root_base :
    ({ files := emptyDefinitions.access [], base := some "/tools" } : Loader Id).loadDirectory "defs" =
        ({ files := emptyDefinitions.access [] } : Loader Id).loadDirectory "/tools/defs" ∧
      (({ files := emptyDefinitions.access [], base := some "/tools" } : Loader Id).loadDirectory
        "defs").run.map List.length = .ok 0 :=
  ⟨((loads_from_base (emptyDefinitions.access []) "/tools" "defs").2.1 (by decide)).1,
    by decide +kernel⟩

/-- **A base that does not start at the root is applied twice.**  The file of the directory, and the
directory whose tools are asked for, are looked for below `tools/tools`. -/
theorem compile_of_relative_base :
    let based : Loader Id := { files := emptyDefinitions.access [], base := some "tools" }
    let bare : Loader Id := { files := emptyDefinitions.access [] }
    (based.loadDirectory "defs").run.map List.length =
        .error (.load "tools/tools/defs/a.json" "No such file or directory (os error 2)"
          (some "Check that the file exists and is readable")) ∧
      (bare.loadDirectory "tools/defs").run.map List.length = .ok 0 ∧
      (based.compile "defs").run.map List.length =
        .error (.load "tools/tools/defs" "No such file or directory (os error 2)" none) ∧
      (bare.compile "tools/defs").run.map List.length = .ok 0 := by
  decide +kernel

end Loader
end AgentTool
