import ModBuild.Files.Errno

/-!
# `ModBuild.Files.Fault`: why a file operation fails

A fault is the cause that the file system itself gives. The library's own errors wrap it together
with the operation and the path (`ModBuild.Error`).
-/

set_option autoImplicit false

namespace ModBuild

/-- The classes of faults that are told apart. Those up to `staleHandle` are about files and the
network, the rest about calls and their arguments. -/
inductive FileFault.Kind where
  | notFound
  | permissionDenied
  | alreadyExists
  | notADirectory
  | isADirectory
  | directoryNotEmpty
  | readOnlyFilesystem
  | filesystemLoop
  | storageFull
  | quotaExceeded
  | fileTooLarge
  | notSeekable
  | tooManyLinks
  | crossesDevices
  | invalidFilename
  | resourceBusy
  | executableFileBusy
  | connectionRefused
  | connectionReset
  | connectionAborted
  | notConnected
  | hostUnreachable
  | networkUnreachable
  | networkDown
  | addressInUse
  | addressNotAvailable
  | brokenPipe
  | staleHandle
  | wouldBlock
  | inProgress
  | interrupted
  | timedOut
  | deadlock
  | outOfMemory
  | invalidInput
  | invalidData
  | argumentListTooLong
  | writeZero
  | unexpectedEof
  | unsupported
  | other
  /-- An error number without a class of its own. -/
  | uncategorized
  deriving DecidableEq

/-- Why a file operation fails. -/
inductive FileFault where
  /-- The operating system refused, with an error number. -/
  | os (number : Nat)
  /-- A text file holds bytes that are not UTF-8. -/
  | notUtf8
  /-- A path holds the character NUL, which no file name can. -/
  | nulInName
  /-- A fault with a text of its own. -/
  | custom (kind : FileFault.Kind) (message : String)
  deriving DecidableEq

namespace FileFault

/-- The classes of error numbers on Linux, by number. Several numbers share a class. -/
def numberKinds : List (Nat × Kind) :=
  [(1, .permissionDenied), (2, .notFound), (4, .interrupted), (7, .argumentListTooLong),
    (11, .wouldBlock), (12, .outOfMemory), (13, .permissionDenied), (16, .resourceBusy),
    (17, .alreadyExists), (18, .crossesDevices), (20, .notADirectory), (21, .isADirectory),
    (22, .invalidInput), (26, .executableFileBusy), (27, .fileTooLarge), (28, .storageFull),
    (29, .notSeekable), (30, .readOnlyFilesystem), (31, .tooManyLinks), (32, .brokenPipe),
    (35, .deadlock), (36, .invalidFilename), (38, .unsupported), (39, .directoryNotEmpty),
    (40, .filesystemLoop), (95, .unsupported), (98, .addressInUse), (99, .addressNotAvailable),
    (100, .networkDown), (101, .networkUnreachable), (103, .connectionAborted),
    (104, .connectionReset), (107, .notConnected), (110, .timedOut), (111, .connectionRefused),
    (113, .hostUnreachable), (115, .inProgress), (116, .staleHandle), (122, .quotaExceeded)]

/-- The class of a fault. -/
def kind : FileFault → Kind
  | os number => (numberKinds.lookup number).getD .uncategorized
  | notUtf8 => .invalidData
  | nulInName => .invalidInput
  | custom kind _ => kind

/-- The text of a fault. -/
def message : FileFault → String
  | os number => Errno.text number ++ " (os error " ++ toString number ++ ")"
  | notUtf8 => "stream did not contain valid UTF-8"
  | nulInName => "file name contained an unexpected NUL byte"
  | custom _ message => message

end FileFault

end ModBuild
