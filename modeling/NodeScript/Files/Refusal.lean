/-
  Why a file could not be read or written.
-/
import NodeScript.Text.Bytes

namespace NodeScript

/-- What was asked of a directory tree. -/
inductive Request where
  | opening
  | reading
  | writing
  | makingDirectory
  deriving DecidableEq

/-- The word for a request in an error text. -/
def Request.name : Request → Bytes
  | .opening => utf8 "open"
  | .reading => utf8 "read"
  | .writing => utf8 "write"
  | .makingDirectory => utf8 "mkdir"

/-- What stood in the way of it. -/
inductive Obstacle where
  /-- There is nothing at the path, or at a directory on the way. -/
  | missing
  /-- The path leads to a directory where a file is needed. -/
  | isDirectory
  /-- The path leads through something that is not a directory. -/
  | notDirectory
  /-- The path, or a name in it, is longer than paths and names can be. -/
  | tooLong
  /-- The path holds a zero byte. -/
  | invalid
  /-- There is something at the path already. -/
  | taken
  /-- The machine does not allow it, for a reason that does not show in the tree,
  such as a lack of permission or of room, which it gives in its own words. -/
  | barred (reason : Bytes)
  deriving DecidableEq

/-- The wording of an obstacle. -/
def Obstacle.message : Obstacle → Bytes
  | .missing => utf8 "no such file or directory"
  | .isDirectory => utf8 "is a directory"
  | .notDirectory => utf8 "not a directory"
  | .tooLong => utf8 "file name too long"
  | .invalid => utf8 "invalid argument"
  | .taken => utf8 "file exists"
  | .barred reason => reason

/-- Why a file could not be read or written. -/
inductive Refusal where
  /-- Writing to this name is not permitted. -/
  | denied
  /-- The path climbs out of the directory that all files are kept in. -/
  | outside
  /-- There is no such file in memory. -/
  | absent
  /-- There is a directory in memory at the given full path. -/
  | occupied (path : Bytes)
  /-- A directory tree refused the request at the given path. -/
  | system (request : Request) (path : Bytes) (obstacle : Obstacle)
  deriving DecidableEq

/-- The wording of a refusal. -/
def Refusal.message : Refusal → Bytes
  | .denied => utf8 "permission denied"
  | .outside => utf8 "chroot boundary crossed"
  | .absent => utf8 "file does not exist"
  | .occupied path => utf8 "cannot open directory: " ++ path
  | .system request path obstacle =>
    request.name ++ [space] ++ path ++ utf8 ": " ++ obstacle.message

/-- Whether a refusal says that there is nothing at the path. -/
def Refusal.isMissing : Refusal → Bool
  | .absent => true
  | .system _ _ .missing => true
  | _ => false

end NodeScript
