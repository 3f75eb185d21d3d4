import Mustache.Text.Quoted

/-!
# Faults of the disk

Why a path cannot be opened.
-/

namespace Mustache

/-- Why a path cannot be opened. -/
inductive DiskProblem
  | notFound
  | notDirectory
  | isDirectory
  | nameTooLong
deriving DecidableEq, Repr

/-- A path that cannot be opened. -/
structure DiskFault where
  problem : DiskProblem
  path : String
deriving DecidableEq, Repr

namespace DiskFault

/-- The number and the wording of a problem. -/
def description : DiskProblem → String
  | .notFound => "[Errno 2] No such file or directory"
  | .notDirectory => "[Errno 20] Not a directory"
  | .isDirectory => "[Errno 21] Is a directory"
  | .nameTooLong => "[Errno 36] File name too long"

/-- The wording of a fault. -/
def message (f : DiskFault) : String := description f.problem ++ ": " ++ Text.quoted f.path

end DiskFault

end Mustache
