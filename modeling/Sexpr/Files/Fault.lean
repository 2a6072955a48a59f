import Sexpr.Files.Path
import Sexpr.Text.Quoted

/-!
Why an operation on files fails, and how that is told.
-/

namespace Sexpr

/-- The grounds on which access to a file or a directory is denied, whatever its path. -/
inductive Denial where
  | noPermission
  | notPermitted
  | readOnly
  | noSpace
  | brokenDevice
  deriving DecidableEq

/-- The causes for which the operating system refuses an operation on files. -/
inductive OsFault where
  | notFound
  | exists
  | notDirectory
  | isDirectory
  | nameTooLong
  | tooManyLinks
  | denied (denial : Denial)
  deriving DecidableEq

namespace OsFault

def errno : OsFault → Nat × String
  | .notFound => (2, "No such file or directory")
  | .exists => (17, "File exists")
  | .notDirectory => (20, "Not a directory")
  | .isDirectory => (21, "Is a directory")
  | .nameTooLong => (36, "File name too long")
  | .tooManyLinks => (40, "Too many levels of symbolic links")
  | .denied .noPermission => (13, "Permission denied")
  | .denied .notPermitted => (1, "Operation not permitted")
  | .denied .readOnly => (30, "Read-only file system")
  | .denied .noSpace => (28, "No space left on device")
  | .denied .brokenDevice => (5, "Input/output error")

def message (fault : OsFault) (path : Path) : String :=
  "[Errno " ++ toString fault.errno.1 ++ "] " ++ fault.errno.2 ++ ": " ++ Text.quoted path.render

/-- Whether the failure says that nothing is at the place that was asked for. A name that is too
long and a denial say nothing about the place. -/
def isAbsence : OsFault → Bool
  | .notFound | .notDirectory | .tooManyLinks => true
  | .exists | .isDirectory | .nameTooLong | .denied _ => false

end OsFault

end Sexpr
