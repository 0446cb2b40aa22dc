/-!
# Input errors

What can go wrong when files and directories are read.
-/

namespace ComponentScan

/-- Why a file or directory could not be read. -/
inductive IoError where
  | notFound
  | notADirectory
  | isADirectory
  /-- The file's bytes are no text. -/
  | notText
  | other (text : String)
  deriving Repr, DecidableEq

def IoError.message : IoError → String
  | notFound => "No such file or directory (os error 2)"
  | notADirectory => "Not a directory (os error 20)"
  | isADirectory => "Is a directory (os error 21)"
  | notText => "stream did not contain valid UTF-8"
  | other text => text

end ComponentScan
