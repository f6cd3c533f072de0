/-
**Error numbers of the operating system.**

* `Errno`: an error number;
* `Errno.text`: its description with the number, such as `File exists (os error 17)`;
* `IoCause`: why input or output went wrong, which an error number need not tell.
-/

import TouchDispatch.Text.Decimal

namespace TouchDispatch

open TouchDispatch.Text

/-- An error number of the operating system. -/
structure Errno where
  code : Int
deriving DecidableEq, Repr

namespace Errno

/-- There is nothing at the path. -/
def notFound : Errno := ⟨2⟩

/-- The arguments of a program have too many octets. -/
def argumentsTooLong : Errno := ⟨7⟩

/-- There is something at the path already. -/
def alreadyExists : Errno := ⟨17⟩

/-- A component of the path that has to be a directory is not one. -/
def notDirectory : Errno := ⟨20⟩

/-- The path is a directory where a file is needed. -/
def isDirectory : Errno := ⟨21⟩

/-- The path is in use by the system itself. -/
def busy : Errno := ⟨16⟩

/-- The path, or a name in it, has too many octets. -/
def nameTooLong : Errno := ⟨36⟩

/-- The descriptions of the error numbers from zero on; the numbers that mean nothing have an
empty one. -/
def descriptions : List String :=
  [
    "Success", "Operation not permitted", "No such file or directory", "No such process",
    "Interrupted system call", "Input/output error", "No such device or address",
    "Argument list too long", "Exec format error", "Bad file descriptor", "No child processes",
    "Resource temporarily unavailable", "Cannot allocate memory", "Permission denied",
    "Bad address", "Block device required", "Device or resource busy", "File exists",
    "Invalid cross-device link", "No such device", "Not a directory", "Is a directory",
    "Invalid argument", "Too many open files in system", "Too many open files",
    "Inappropriate ioctl for device", "Text file busy", "File too large",
    "No space left on device", "Illegal seek", "Read-only file system", "Too many links",
    "Broken pipe", "Numerical argument out of domain", "Numerical result out of range",
    "Resource deadlock avoided", "File name too long", "No locks available",
    "Function not implemented", "Directory not empty", "Too many levels of symbolic links", "",
    "No message of desired type", "Identifier removed", "Channel number out of range",
    "Level 2 not synchronized", "Level 3 halted", "Level 3 reset", "Link number out of range",
    "Protocol driver not attached", "No CSI structure available", "Level 2 halted",
    "Invalid exchange", "Invalid request descriptor", "Exchange full", "No anode",
    "Invalid request code", "Invalid slot", "", "Bad font file format", "Device not a stream",
    "No data available", "Timer expired", "Out of streams resources",
    "Machine is not on the network", "Package not installed", "Object is remote",
    "Link has been severed", "Advertise error", "Srmount error", "Communication error on send",
    "Protocol error", "Multihop attempted", "RFS specific error", "Bad message",
    "Value too large for defined data type", "Name not unique on network",
    "File descriptor in bad state", "Remote address changed",
    "Can not access a needed shared library", "Accessing a corrupted shared library",
    ".lib section in a.out corrupted", "Attempting to link in too many shared libraries",
    "Cannot exec a shared library directly", "Invalid or incomplete multibyte or wide character",
    "Interrupted system call should be restarted", "Streams pipe error", "Too many users",
    "Socket operation on non-socket", "Destination address required", "Message too long",
    "Protocol wrong type for socket", "Protocol not available", "Protocol not supported",
    "Socket type not supported", "Operation not supported", "Protocol family not supported",
    "Address family not supported by protocol", "Address already in use",
    "Cannot assign requested address", "Network is down", "Network is unreachable",
    "Network dropped connection on reset", "Software caused connection abort",
    "Connection reset by peer", "No buffer space available",
    "Transport endpoint is already connected", "Transport endpoint is not connected",
    "Cannot send after transport endpoint shutdown", "Too many references: cannot splice",
    "Connection timed out", "Connection refused", "Host is down", "No route to host",
    "Operation already in progress", "Operation now in progress", "Stale file handle",
    "Structure needs cleaning", "Not a XENIX named type file", "No XENIX semaphores available",
    "Is a named type file", "Remote I/O error", "Disk quota exceeded", "No medium found",
    "Wrong medium type", "Operation canceled", "Required key not available", "Key has expired",
    "Key has been revoked", "Key was rejected by service", "Owner died", "State not recoverable",
    "Operation not possible due to RF-kill", "Memory page has hardware error"
  ]

/-- The description of an error number without the number itself. -/
def description (errno : Errno) : String :=
  let known := if errno.code < 0 then "" else descriptions.getD errno.code.toNat ""
  if known = "" then "Unknown error " ++ String.ofList (Decimal.integer errno.code) else known

/-- The description of an error number. -/
def text (errno : Errno) : String :=
  errno.description ++ " (os error " ++ String.ofList (Decimal.integer errno.code) ++ ")"

end Errno

/-- What went wrong in input or output: an error of the operating system, or a reason in words. -/
inductive IoCause where
  | os (errno : Errno)
  | other (reason : String)
deriving DecidableEq, Repr

/-- The text of a cause. -/
def IoCause.text : IoCause → String
  | .os errno => errno.text
  | .other reason => reason

end TouchDispatch
