import Proctor.Test.Basic

/-!
# Validation

All files of a Test end up in one directory, so each needs a plain name of its own, and the name of
a Test is a label of its workload, so it may not be too long. The first problem found is the one
that is told.
-/

namespace Proctor

/-- Why a Test is refused. -/
inductive Problem where
  /-- The name of a file is blank. -/
  | blankFileName (role : Spec.Role)
  /-- The name of a file leads into another directory. -/
  | notPlain (role : Spec.Role) (name : String)
  /-- Another file has the same name. -/
  | collision (role : Spec.Role) (name : String)
  /-- The name of the Test does not fit a label. -/
  | nameTooLong
  /-- The Test is in no namespace. -/
  | noNamespace
  /-- A reason told by someone else. -/
  | stated (message : String)
  deriving DecidableEq, Repr

/-- The most bytes that the name of a Test may have. -/
def Test.maxNameLength : Nat := 63

/-- The wording of a problem. -/
def Problem.message : Problem → String
  | .blankFileName role => role.name ++ " file name cannot be empty"
  | .notPlain role name => role.name ++ " file name must be a plain file name: '" ++ name ++ "'"
  | .collision role name => role.name ++ " file '" ++ name ++ "' collides with another test file"
  | .nameTooLong =>
    "Test name is longer than " ++ toString Test.maxNameLength ++ " characters"
  | .noNamespace => "Test has no namespace"
  | .stated message => message

namespace Spec

/-- The first problem with the files, after those whose names are taken. -/
def fileProblem? (taken : List String) : List File → Option Problem
  | [] => none
  | f :: rest =>
    if Text.isBlankText f.name then some (.blankFileName f.role)
    else if '/' ∈ f.name.toList then some (.notPlain f.role f.name)
    else if f.name ∈ taken then some (.collision f.role f.name)
    else fileProblem? (f.name :: taken) rest

/-- The first problem with a spec. -/
def problem? (s : Spec) : Option Problem := fileProblem? [] s.files

end Spec

/-- The first problem with a Test: its name comes before its files. -/
def Test.problem? (t : Test) : Option Problem :=
  if Test.maxNameLength < (t.metadata.name.getD "").utf8ByteSize then some .nameTooLong
  else t.spec.problem?

end Proctor
