/-
The errors of the operating system.

Main definitions:
* `IoKind` — what sort of trouble an input or output error is;
* `Errno` — the number of an error that the kernel reported;
* `Errno.kind`, `Errno.text` — its sort, and how the system words it;
* `Errno.wordings` — the wordings of all numbers that the system knows.
-/

namespace ProfiledSocket

/-- What sort of trouble an input or output error is. -/
inductive IoKind
  | notFound
  | permissionDenied
  | connectionRefused
  | connectionReset
  | hostUnreachable
  | networkUnreachable
  | connectionAborted
  | notConnected
  | addrInUse
  | addrNotAvailable
  | networkDown
  | brokenPipe
  | alreadyExists
  | wouldBlock
  | notADirectory
  | isADirectory
  | directoryNotEmpty
  | readOnlyFilesystem
  | filesystemLoop
  | staleNetworkFileHandle
  | invalidInput
  | invalidData
  | timedOut
  | writeZero
  | storageFull
  | notSeekable
  | quotaExceeded
  | fileTooLarge
  | resourceBusy
  | executableFileBusy
  | deadlock
  | crossesDevices
  | tooManyLinks
  | invalidFilename
  | argumentListTooLong
  | interrupted
  | unsupported
  | unexpectedEof
  | outOfMemory
  | inProgress
  | tooManyOpenFiles
  | other
  | uncategorized
deriving DecidableEq

namespace IoKind

/-- The name that messages show for a kind. -/
def name : IoKind → String
  | notFound => "NotFound"
  | permissionDenied => "PermissionDenied"
  | connectionRefused => "ConnectionRefused"
  | connectionReset => "ConnectionReset"
  | hostUnreachable => "HostUnreachable"
  | networkUnreachable => "NetworkUnreachable"
  | connectionAborted => "ConnectionAborted"
  | notConnected => "NotConnected"
  | addrInUse => "AddrInUse"
  | addrNotAvailable => "AddrNotAvailable"
  | networkDown => "NetworkDown"
  | brokenPipe => "BrokenPipe"
  | alreadyExists => "AlreadyExists"
  | wouldBlock => "WouldBlock"
  | notADirectory => "NotADirectory"
  | isADirectory => "IsADirectory"
  | directoryNotEmpty => "DirectoryNotEmpty"
  | readOnlyFilesystem => "ReadOnlyFilesystem"
  | filesystemLoop => "FilesystemLoop"
  | staleNetworkFileHandle => "StaleNetworkFileHandle"
  | invalidInput => "InvalidInput"
  | invalidData => "InvalidData"
  | timedOut => "TimedOut"
  | writeZero => "WriteZero"
  | storageFull => "StorageFull"
  | notSeekable => "NotSeekable"
  | quotaExceeded => "QuotaExceeded"
  | fileTooLarge => "FileTooLarge"
  | resourceBusy => "ResourceBusy"
  | executableFileBusy => "ExecutableFileBusy"
  | deadlock => "Deadlock"
  | crossesDevices => "CrossesDevices"
  | tooManyLinks => "TooManyLinks"
  | invalidFilename => "InvalidFilename"
  | argumentListTooLong => "ArgumentListTooLong"
  | interrupted => "Interrupted"
  | unsupported => "Unsupported"
  | unexpectedEof => "UnexpectedEof"
  | outOfMemory => "OutOfMemory"
  | inProgress => "InProgress"
  | tooManyOpenFiles => "TooManyOpenFiles"
  | other => "Other"
  | uncategorized => "Uncategorized"

/-- The wording of an error of which only the kind is known. -/
def text : IoKind → String
  | notFound => "entity not found"
  | permissionDenied => "permission denied"
  | connectionRefused => "connection refused"
  | connectionReset => "connection reset"
  | hostUnreachable => "host unreachable"
  | networkUnreachable => "network unreachable"
  | connectionAborted => "connection aborted"
  | notConnected => "not connected"
  | addrInUse => "address in use"
  | addrNotAvailable => "address not available"
  | networkDown => "network down"
  | brokenPipe => "broken pipe"
  | alreadyExists => "entity already exists"
  | wouldBlock => "operation would block"
  | notADirectory => "not a directory"
  | isADirectory => "is a directory"
  | directoryNotEmpty => "directory not empty"
  | readOnlyFilesystem => "read-only filesystem or storage medium"
  | filesystemLoop => "filesystem loop or indirection limit (e.g. symlink loop)"
  | staleNetworkFileHandle => "stale network file handle"
  | invalidInput => "invalid input parameter"
  | invalidData => "invalid data"
  | timedOut => "timed out"
  | writeZero => "write zero"
  | storageFull => "no storage space"
  | notSeekable => "seek on unseekable file"
  | quotaExceeded => "quota exceeded"
  | fileTooLarge => "file too large"
  | resourceBusy => "resource busy"
  | executableFileBusy => "executable file busy"
  | deadlock => "deadlock"
  | crossesDevices => "cross-device link or rename"
  | tooManyLinks => "too many links"
  | invalidFilename => "invalid filename"
  | argumentListTooLong => "argument list too long"
  | interrupted => "operation interrupted"
  | unsupported => "unsupported"
  | unexpectedEof => "unexpected end of file"
  | outOfMemory => "out of memory"
  | inProgress => "in progress"
  | tooManyOpenFiles => "too many open files"
  | other => "other error"
  | uncategorized => "uncategorized error"

/-- All kinds. -/
def all : List IoKind :=
  [notFound, permissionDenied, connectionRefused, connectionReset, hostUnreachable,
    networkUnreachable, connectionAborted, notConnected, addrInUse, addrNotAvailable, networkDown,
    brokenPipe, alreadyExists, wouldBlock, notADirectory, isADirectory, directoryNotEmpty,
    readOnlyFilesystem, filesystemLoop, staleNetworkFileHandle, invalidInput, invalidData,
    timedOut, writeZero, storageFull, notSeekable, quotaExceeded, fileTooLarge, resourceBusy,
    executableFileBusy, deadlock, crossesDevices, tooManyLinks, invalidFilename,
    argumentListTooLong, interrupted, unsupported, unexpectedEof, outOfMemory, inProgress,
    tooManyOpenFiles, other, uncategorized]

/-- The kind of a given name. -/
def ofName? (name : String) : Option IoKind := all.find? fun k => k.name == name

end IoKind

/-- The number by which the kernel reports an error. -/
structure Errno where
  code : Int
deriving DecidableEq

namespace Errno

/-- A signal ended the call before it did anything. -/
def interrupted : Errno := ⟨4⟩

/-- The number is no open descriptor. -/
def badDescriptor : Errno := ⟨9⟩

/-- The call would have to wait, and the descriptor does not wait. -/
def again : Errno := ⟨11⟩

/-- An argument makes no sense for this call. -/
def invalidArgument : Errno := ⟨22⟩

/-- The process may open no more descriptors. -/
def tooManyFiles : Errno := ⟨24⟩

/-- The wait could only be ended by the one who waits. -/
def deadlock : Errno := ⟨35⟩

/-- The other end of the connection is gone. -/
def brokenPipe : Errno := ⟨32⟩

/-- The descriptor is not a socket. -/
def notSocket : Errno := ⟨88⟩

/-- A datagram was sent without saying where to. -/
def destinationRequired : Errno := ⟨89⟩

/-- The datagram is longer than any can be. -/
def messageTooLong : Errno := ⟨90⟩

/-- The socket has no such option. -/
def noSuchOption : Errno := ⟨92⟩

/-- The operation is not one of this sort of socket. -/
def notSupported : Errno := ⟨95⟩

/-- Another socket has the address. -/
def addressInUse : Errno := ⟨98⟩

/-- No route leads to the address. -/
def networkUnreachable : Errno := ⟨101⟩

/-- The socket has a connection already. -/
def alreadyConnected : Errno := ⟨106⟩

/-- The socket has no connection. -/
def notConnected : Errno := ⟨107⟩

/-- A connection attempt goes on in the background. -/
def inProgress : Errno := ⟨115⟩

/-- What sort of trouble the number stands for. -/
def kind (e : Errno) : IoKind :=
  match e.code with
  | 1 | 13 => .permissionDenied
  | 2 => .notFound
  | 4 => .interrupted
  | 7 => .argumentListTooLong
  | 11 => .wouldBlock
  | 12 => .outOfMemory
  | 16 => .resourceBusy
  | 17 => .alreadyExists
  | 18 => .crossesDevices
  | 20 => .notADirectory
  | 21 => .isADirectory
  | 22 => .invalidInput
  | 23 | 24 => .tooManyOpenFiles
  | 26 => .executableFileBusy
  | 27 => .fileTooLarge
  | 28 => .storageFull
  | 29 => .notSeekable
  | 30 => .readOnlyFilesystem
  | 31 => .tooManyLinks
  | 32 => .brokenPipe
  | 35 => .deadlock
  | 36 => .invalidFilename
  | 38 | 95 => .unsupported
  | 39 => .directoryNotEmpty
  | 40 => .filesystemLoop
  | 98 => .addrInUse
  | 99 => .addrNotAvailable
  | 100 => .networkDown
  | 101 => .networkUnreachable
  | 103 => .connectionAborted
  | 104 => .connectionReset
  | 107 => .notConnected
  | 110 => .timedOut
  | 111 => .connectionRefused
  | 113 => .hostUnreachable
  | 115 => .inProgress
  | 116 => .staleNetworkFileHandle
  | 122 => .quotaExceeded
  | _ => .uncategorized

/-- How the system words the errors that it knows. -/
def wordings : List (Int × String) :=
  [(0, "Success"),
    (1, "Operation not permitted"),
    (2, "No such file or directory"),
    (3, "No such process"),
    (4, "Interrupted system call"),
    (5, "Input/output error"),
    (6, "No such device or address"),
    (7, "Argument list too long"),
    (8, "Exec format error"),
    (9, "Bad file descriptor"),
    (10, "No child processes"),
    (11, "Resource temporarily unavailable"),
    (12, "Cannot allocate memory"),
    (13, "Permission denied"),
    (14, "Bad address"),
    (15, "Block device required"),
    (16, "Device or resource busy"),
    (17, "File exists"),
    (18, "Invalid cross-device link"),
    (19, "No such device"),
    (20, "Not a directory"),
    (21, "Is a directory"),
    (22, "Invalid argument"),
    (23, "Too many open files in system"),
    (24, "Too many open files"),
    (25, "Inappropriate ioctl for device"),
    (26, "Text file busy"),
    (27, "File too large"),
    (28, "No space left on device"),
    (29, "Illegal seek"),
    (30, "Read-only file system"),
    (31, "Too many links"),
    (32, "Broken pipe"),
    (33, "Numerical argument out of domain"),
    (34, "Numerical result out of range"),
    (35, "Resource deadlock avoided"),
    (36, "File name too long"),
    (37, "No locks available"),
    (38, "Function not implemented"),
    (39, "Directory not empty"),
    (40, "Too many levels of symbolic links"),
    (42, "No message of desired type"),
    (43, "Identifier removed"),
    (44, "Channel number out of range"),
    (45, "Level 2 not synchronized"),
    (46, "Level 3 halted"),
    (47, "Level 3 reset"),
    (48, "Link number out of range"),
    (49, "Protocol driver not attached"),
    (50, "No CSI structure available"),
    (51, "Level 2 halted"),
    (52, "Invalid exchange"),
    (53, "Invalid request descriptor"),
    (54, "Exchange full"),
    (55, "No anode"),
    (56, "Invalid request code"),
    (57, "Invalid slot"),
    (59, "Bad font file format"),
    (60, "Device not a stream"),
    (61, "No data available"),
    (62, "Timer expired"),
    (63, "Out of streams resources"),
    (64, "Machine is not on the network"),
    (65, "Package not installed"),
    (66, "Object is remote"),
    (67, "Link has been severed"),
    (68, "Advertise error"),
    (69, "Srmount error"),
    (70, "Communication error on send"),
    (71, "Protocol error"),
    (72, "Multihop attempted"),
    (73, "RFS specific error"),
    (74, "Bad message"),
    (75, "Value too large for defined data type"),
    (76, "Name not unique on network"),
    (77, "File descriptor in bad state"),
    (78, "Remote address changed"),
    (79, "Can not access a needed shared library"),
    (80, "Accessing a corrupted shared library"),
    (81, ".lib section in a.out corrupted"),
    (82, "Attempting to link in too many shared libraries"),
    (83, "Cannot exec a shared library directly"),
    (84, "Invalid or incomplete multibyte or wide character"),
    (85, "Interrupted system call should be restarted"),
    (86, "Streams pipe error"),
    (87, "Too many users"),
    (88, "Socket operation on non-socket"),
    (89, "Destination address required"),
    (90, "Message too long"),
    (91, "Protocol wrong type for socket"),
    (92, "Protocol not available"),
    (93, "Protocol not supported"),
    (94, "Socket type not supported"),
    (95, "Operation not supported"),
    (96, "Protocol family not supported"),
    (97, "Address family not supported by protocol"),
    (98, "Address already in use"),
    (99, "Cannot assign requested address"),
    (100, "Network is down"),
    (101, "Network is unreachable"),
    (102, "Network dropped connection on reset"),
    (103, "Software caused connection abort"),
    (104, "Connection reset by peer"),
    (105, "No buffer space available"),
    (106, "Transport endpoint is already connected"),
    (107, "Transport endpoint is not connected"),
    (108, "Cannot send after transport endpoint shutdown"),
    (109, "Too many references: cannot splice"),
    (110, "Connection timed out"),
    (111, "Connection refused"),
    (112, "Host is down"),
    (113, "No route to host"),
    (114, "Operation already in progress"),
    (115, "Operation now in progress"),
    (116, "Stale file handle"),
    (117, "Structure needs cleaning"),
    (118, "Not a XENIX named type file"),
    (119, "No XENIX semaphores available"),
    (120, "Is a named type file"),
    (121, "Remote I/O error"),
    (122, "Disk quota exceeded"),
    (123, "No medium found"),
    (124, "Wrong medium type"),
    (125, "Operation canceled"),
    (126, "Required key not available"),
    (127, "Key has expired"),
    (128, "Key has been revoked"),
    (129, "Key was rejected by service"),
    (130, "Owner died"),
    (131, "State not recoverable"),
    (132, "Operation not possible due to RF-kill"),
    (133, "Memory page has hardware error")]

/-- How the system words the error. -/
def text (e : Errno) : String := (wordings.lookup e.code).getD ("Unknown error " ++ toString e.code)

/-- One number stands for what would have to wait. -/
theorem kind_eq_wouldBlock_iff (e : Errno) : e.kind = .wouldBlock ↔ e = .again := by
  obtain ⟨code⟩ := e
  simp only [kind, again, mk.injEq]
  split <;> simp_all

/-- One number stands for an interruption. -/
theorem kind_eq_interrupted_iff (e : Errno) : e.kind = .interrupted ↔ e = .interrupted := by
  obtain ⟨code⟩ := e
  simp only [kind, interrupted, mk.injEq]
  split <;> simp_all

end Errno

end ProfiledSocket
