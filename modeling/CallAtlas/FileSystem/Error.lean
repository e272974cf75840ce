/-!
Why operations on files and the start of programs fail. Causes that the operating
system has a number for are shown with it.
-/

namespace CallAtlas

inductive FileError where
  | notPermitted
  | notFound
  | badFormat
  | badDescriptor
  | permissionDenied
  | busy
  | alreadyExists
  | notADirectory
  | isADirectory
  | invalidArgument
  | noSpace
  | nameTooLong
  | notEmpty
  | tooManyLinks
  | nulInName
  | nulInArgument
  | notText
  deriving DecidableEq, Repr

namespace FileError

def number? : FileError → Option Nat
  | notPermitted => some 1
  | notFound => some 2
  | badFormat => some 8
  | badDescriptor => some 9
  | permissionDenied => some 13
  | busy => some 16
  | alreadyExists => some 17
  | notADirectory => some 20
  | isADirectory => some 21
  | invalidArgument => some 22
  | noSpace => some 28
  | nameTooLong => some 36
  | notEmpty => some 39
  | tooManyLinks => some 40
  | nulInName => none
  | nulInArgument => none
  | notText => none

def reason : FileError → String
  | notPermitted => "Operation not permitted"
  | notFound => "No such file or directory"
  | badFormat => "Exec format error"
  | badDescriptor => "Bad file descriptor"
  | permissionDenied => "Permission denied"
  | busy => "Device or resource busy"
  | alreadyExists => "File exists"
  | notADirectory => "Not a directory"
  | isADirectory => "Is a directory"
  | invalidArgument => "Invalid argument"
  | noSpace => "No space left on device"
  | nameTooLong => "File name too long"
  | notEmpty => "Directory not empty"
  | tooManyLinks => "Too many levels of symbolic links"
  | nulInName => "file name contained an unexpected NUL byte"
  | nulInArgument => "nul byte found in provided data"
  | notText => "stream did not contain valid UTF-8"

def message (error : FileError) : String :=
  match error.number? with
  | some number => s!"{error.reason} (os error {number})"
  | none => error.reason

end FileError

end CallAtlas
