/-!
Files that a run reads: a directory of them by name, and why a file could not be read.
-/

set_option autoImplicit false

namespace Reconciler

inductive FileFault where
  | missing
  | notDirectory
  | directory
  | other (reason : String)
  deriving DecidableEq, Repr

namespace FileFault

def message : FileFault → String
  | .missing => "No such file or directory (os error 2)"
  | .notDirectory => "Not a directory (os error 20)"
  | .directory => "Is a directory (os error 21)"
  | .other reason => reason

end FileFault

/-- What a run may read, by path. -/
abbrev FileReader := String → Except FileFault String

namespace FileReader

/-- The steps of a path below the directory at hand; those that stay in place do not count. -/
def steps (path : String) : List String := (path.splitOn "/").filter fun s => s ≠ "" ∧ s ≠ "."

def ofDirectory (files : List (String × String)) : FileReader := fun path =>
  if path.startsWith "/" then .error .missing
  else
    match steps path with
    | [] => .error (if path = "" then .missing else .directory)
    | [name] =>
      match files.lookup name with
      | some text => if path.endsWith "/" then .error .notDirectory else .ok text
      | none => .error (if name = ".." then .directory else .missing)
    | name :: _ =>
      .error (if (files.lookup name).isSome then .notDirectory else .missing)

end FileReader

end Reconciler
