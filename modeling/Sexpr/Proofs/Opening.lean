import Sexpr.Directory
import Sexpr.Proofs.Canonical

/-! # Files of a directory

A path is walked from place to place, and no file is found on the way but those that the
directory has. Directories can be opened too, but nothing can be read from them. So
whatever path the command is given, it succeeds on no more than the files of the directory.
-/

namespace Sexpr

namespace Directory

variable {dir : Directory} {path : String}

def Holds (dir : Directory) : Place → Prop
  | .file bytes => ∃ name, (name, bytes) ∈ dir.files
  | .here | .elsewhere => True

theorem holds_enter {place place' : Place} {name : String}
    (entered : dir.enter place name = .ok place') (before : dir.Holds place) :
    dir.Holds place' := by
  revert entered
  fun_cases enter dir place name with
  | case1 | case4 | case6 => exact nofun
  | case2 =>
      rintro ⟨⟩
      exact before
  | case3 =>
      rintro ⟨⟩
      trivial
  | case5 _ _ _ bytes listed =>
      rintro ⟨⟩
      obtain ⟨above, below, split, -⟩ := List.lookup_eq_some_iff.mp listed
      exact ⟨name, by simp [split]⟩

theorem holds_foldlM {place place' : Place} {names : List String}
    (walked : names.foldlM dir.enter place = .ok place') (before : dir.Holds place) :
    dir.Holds place' := by
  induction names generalizing place with
  | nil =>
      cases walked
      exact before
  | cons name names ih =>
      rw [List.foldlM_cons] at walked
      cases entered : dir.enter place name with
      | error error =>
          rw [entered] at walked
          cases walked
      | ok next =>
          rw [entered] at walked
          exact ih walked (holds_enter entered before)

theorem holds_find {place : Place} (found : dir.find path = .ok place) : dir.Holds place := by
  revert found
  fun_cases find dir path with
  | case1 | case2 | case3 => exact nofun
  | case4 =>
      intro walked
      apply holds_foldlM walked
      split <;> trivial

/-- What can be opened is a file of the directory, or a directory, which cannot be read. -/
theorem openPath_eq_ok {source : ByteSource} (opened : dir.openPath path = .ok source) :
    (∃ name bytes, (name, bytes) ∈ dir.files ∧ source = .ofBytes bytes) ∨
      source = ⟨[], some unreadable⟩ := by
  unfold openPath at opened
  split at opened
  · cases opened
  · next bytes found =>
      obtain ⟨name, listed⟩ := holds_find found
      exact .inl ⟨name, bytes, listed, (Except.ok.inj opened).symm⟩
  · exact .inr (Except.ok.inj opened).symm

end Directory

namespace CommandLine

/-- If the command succeeds on a path, it has read a file of the directory. -/
theorem run_directory {dir : Directory} {arguments : List String}
    (done : (run dir.openPath arguments).code = 0) :
    ∃ o path name bytes t, ofArguments arguments = some (o, path) ∧ (name, bytes) ∈ dir.files ∧
      parseWith o.settings (.bytes (.ofBytes bytes)) (some path) = .ok t := by
  cases asked : ofArguments arguments with
  | none =>
      simp only [run, asked] at done
      cases done
  | some answer =>
      obtain ⟨o, path⟩ := answer
      simp only [run, asked] at done
      obtain ⟨source, t, opened, read⟩ := exists_tree_of_code done
      rcases Directory.openPath_eq_ok opened with ⟨name, bytes, listed, rfl⟩ | rfl
      · exact ⟨o, path, name, bytes, t, rfl, listed, read⟩
      · cases read

end CommandLine

end Sexpr
