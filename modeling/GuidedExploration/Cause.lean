import GuidedExploration.ErrorNumber

/-!
Why an operation on files or processes failed.
-/

set_option autoImplicit false

namespace GuidedExploration

inductive Cause where
  | notPermitted
  | notFound
  | inputOutput
  | notExecutableFormat
  | permissionDenied
  | busy
  | alreadyExists
  | notADirectory
  | isADirectory
  | invalidArgument
  | noSpace
  | readOnly
  | nameTooLong
  | directoryNotEmpty
  /-- The bytes of a text are not UTF-8. -/
  | notText
  | nulInPath
  | nulInArgument
  | system (number : Nat)
  /-- An error that has no number. -/
  | other (words : String)
  deriving DecidableEq, Repr

namespace Cause

def number? : Cause → Option Nat
  | notPermitted => some 1
  | notFound => some 2
  | inputOutput => some 5
  | notExecutableFormat => some 8
  | permissionDenied => some 13
  | busy => some 16
  | alreadyExists => some 17
  | notADirectory => some 20
  | isADirectory => some 21
  | invalidArgument => some 22
  | noSpace => some 28
  | readOnly => some 30
  | nameTooLong => some 36
  | directoryNotEmpty => some 39
  | notText | nulInPath | nulInArgument | other _ => none
  | system number => some number

def phrase : Cause → String
  | notPermitted => "Operation not permitted"
  | notFound => "No such file or directory"
  | inputOutput => "Input/output error"
  | notExecutableFormat => "Exec format error"
  | permissionDenied => "Permission denied"
  | busy => "Device or resource busy"
  | alreadyExists => "File exists"
  | notADirectory => "Not a directory"
  | isADirectory => "Is a directory"
  | invalidArgument => "Invalid argument"
  | noSpace => "No space left on device"
  | readOnly => "Read-only file system"
  | nameTooLong => "File name too long"
  | directoryNotEmpty => "Directory not empty"
  | notText => "stream did not contain valid UTF-8"
  | nulInPath => "file name contained an unexpected NUL byte"
  | nulInArgument => "nul byte found in provided data"
  | system number => ErrorNumber.phrase number
  | other words => words

def all : List Cause :=
  [notPermitted, notFound, inputOutput, notExecutableFormat, permissionDenied, busy, alreadyExists,
   notADirectory, isADirectory, invalidArgument, noSpace, readOnly, nameTooLong, directoryNotEmpty,
   notText, nulInPath, nulInArgument]

def ofNumber (number : Nat) : Cause :=
  (all.find? fun cause => cause.number? == some number).getD (.system number)

def message (cause : Cause) : String :=
  match cause.number? with
  | some number => s!"{cause.phrase} (os error {number})"
  | none => cause.phrase

end Cause

end GuidedExploration
