/-!
# What the host refuses

The reasons for which the machine that the tool runs on does not open a file, start a program or
take data. Most carry the number that the operating system gives them.
-/

namespace TapeC

inductive HostError where
  /-- there is nothing at the path -/
  | notFound
  /-- the arguments of a program are too long -/
  | argumentsTooLong
  /-- no process has that number -/
  | noProcess
  /-- the file is not in a form that can be started -/
  | notStartable
  /-- the descriptor is not open, or not for this use -/
  | badDescriptor
  /-- there is no process to wait for -/
  | noChildren
  /-- the file may not be used that way -/
  | permissionDenied
  /-- there is something at the path already -/
  | fileExists
  /-- something on the way is a file -/
  | notADirectory
  /-- a directory where a file is needed -/
  | isADirectory
  /-- the device is full -/
  | noSpace
  /-- the reader of a pipe is gone -/
  | brokenPipe
  /-- a name has more than 255 bytes, or a path more than 4095 -/
  | nameTooLong
  /-- files name each other as the programs that run them, too often or forever -/
  | tooManyLevels
  /-- a path with a zero byte -/
  | zeroInPath
  /-- an argument of a program with a zero byte -/
  | zeroInArgument
  /-- the bytes of a file are not UTF-8 -/
  | notText
  /-- any other reason, in words -/
  | other (reason : String)
deriving DecidableEq, Inhabited

namespace HostError

/-- The reason in words. -/
def reason : HostError → String
  | .notFound => "No such file or directory"
  | .argumentsTooLong => "Argument list too long"
  | .noProcess => "No such process"
  | .notStartable => "Exec format error"
  | .badDescriptor => "Bad file descriptor"
  | .noChildren => "No child processes"
  | .permissionDenied => "Permission denied"
  | .fileExists => "File exists"
  | .notADirectory => "Not a directory"
  | .isADirectory => "Is a directory"
  | .noSpace => "No space left on device"
  | .brokenPipe => "Broken pipe"
  | .nameTooLong => "File name too long"
  | .tooManyLevels => "Too many levels of symbolic links"
  | .zeroInPath => "file name contained an unexpected NUL byte"
  | .zeroInArgument => "nul byte found in provided data"
  | .notText => "stream did not contain valid UTF-8"
  | .other reason => reason

/-- The number that the operating system gives to the reason. -/
def number? : HostError → Option Nat
  | .notFound => some 2
  | .noProcess => some 3
  | .argumentsTooLong => some 7
  | .notStartable => some 8
  | .badDescriptor => some 9
  | .noChildren => some 10
  | .permissionDenied => some 13
  | .fileExists => some 17
  | .notADirectory => some 20
  | .isADirectory => some 21
  | .noSpace => some 28
  | .brokenPipe => some 32
  | .nameTooLong => some 36
  | .tooManyLevels => some 40
  | .zeroInPath | .zeroInArgument | .notText | .other _ => none

/-- The reason, with its number if it has one. -/
def message (e : HostError) : String :=
  match e.number? with
  | some n => e.reason ++ " (os error " ++ toString n ++ ")"
  | none => e.reason

end HostError

end TapeC
