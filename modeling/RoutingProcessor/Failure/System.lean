namespace RoutingProcessor.Failure

-- The errors of the operating system: number, text and kind.
def systemErrors : List (Nat × String × String) := [
  (0, "Success", "Uncategorized"),
  (1, "Operation not permitted", "PermissionDenied"),
  (2, "No such file or directory", "NotFound"),
  (3, "No such process", "Uncategorized"),
  (4, "Interrupted system call", "Interrupted"),
  (5, "Input/output error", "Uncategorized"),
  (6, "No such device or address", "Uncategorized"),
  (7, "Argument list too long", "ArgumentListTooLong"),
  (8, "Exec format error", "Uncategorized"),
  (9, "Bad file descriptor", "Uncategorized"),
  (10, "No child processes", "Uncategorized"),
  (11, "Resource temporarily unavailable", "WouldBlock"),
  (12, "Cannot allocate memory", "OutOfMemory"),
  (13, "Permission denied", "PermissionDenied"),
  (14, "Bad address", "Uncategorized"),
  (15, "Block device required", "Uncategorized"),
  (16, "Device or resource busy", "ResourceBusy"),
  (17, "File exists", "AlreadyExists"),
  (18, "Invalid cross-device link", "CrossesDevices"),
  (19, "No such device", "Uncategorized"),
  (20, "Not a directory", "NotADirectory"),
  (21, "Is a directory", "IsADirectory"),
  (22, "Invalid argument", "InvalidInput"),
  (23, "Too many open files in system", "Uncategorized"),
  (24, "Too many open files", "Uncategorized"),
  (25, "Inappropriate ioctl for device", "Uncategorized"),
  (26, "Text file busy", "ExecutableFileBusy"),
  (27, "File too large", "FileTooLarge"),
  (28, "No space left on device", "StorageFull"),
  (29, "Illegal seek", "NotSeekable"),
  (30, "Read-only file system", "ReadOnlyFilesystem"),
  (31, "Too many links", "TooManyLinks"),
  (32, "Broken pipe", "BrokenPipe"),
  (33, "Numerical argument out of domain", "Uncategorized"),
  (34, "Numerical result out of range", "Uncategorized"),
  (35, "Resource deadlock avoided", "Deadlock"),
  (36, "File name too long", "InvalidFilename"),
  (37, "No locks available", "Uncategorized"),
  (38, "Function not implemented", "Unsupported"),
  (39, "Directory not empty", "DirectoryNotEmpty"),
  (40, "Too many levels of symbolic links", "FilesystemLoop"),
  (42, "No message of desired type", "Uncategorized"),
  (43, "Identifier removed", "Uncategorized"),
  (44, "Channel number out of range", "Uncategorized"),
  (45, "Level 2 not synchronized", "Uncategorized"),
  (46, "Level 3 halted", "Uncategorized"),
  (47, "Level 3 reset", "Uncategorized"),
  (48, "Link number out of range", "Uncategorized"),
  (49, "Protocol driver not attached", "Uncategorized"),
  (50, "No CSI structure available", "Uncategorized"),
  (51, "Level 2 halted", "Uncategorized"),
  (52, "Invalid exchange", "Uncategorized"),
  (53, "Invalid request descriptor", "Uncategorized"),
  (54, "Exchange full", "Uncategorized"),
  (55, "No anode", "Uncategorized"),
  (56, "Invalid request code", "Uncategorized"),
  (57, "Invalid slot", "Uncategorized"),
  (59, "Bad font file format", "Uncategorized"),
  (60, "Device not a stream", "Uncategorized"),
  (61, "No data available", "Uncategorized"),
  (62, "Timer expired", "Uncategorized"),
  (63, "Out of streams resources", "Uncategorized"),
  (64, "Machine is not on the network", "Uncategorized"),
  (65, "Package not installed", "Uncategorized"),
  (66, "Object is remote", "Uncategorized"),
  (67, "Link has been severed", "Uncategorized"),
  (68, "Advertise error", "Uncategorized"),
  (69, "Srmount error", "Uncategorized"),
  (70, "Communication error on send", "Uncategorized"),
  (71, "Protocol error", "Uncategorized"),
  (72, "Multihop attempted", "Uncategorized"),
  (73, "RFS specific error", "Uncategorized"),
  (74, "Bad message", "Uncategorized"),
  (75, "Value too large for defined data type", "Uncategorized"),
  (76, "Name not unique on network", "Uncategorized"),
  (77, "File descriptor in bad state", "Uncategorized"),
  (78, "Remote address changed", "Uncategorized"),
  (79, "Can not access a needed shared library", "Uncategorized"),
  (80, "Accessing a corrupted shared library", "Uncategorized"),
  (81, ".lib section in a.out corrupted", "Uncategorized"),
  (82, "Attempting to link in too many shared libraries", "Uncategorized"),
  (83, "Cannot exec a shared library directly", "Uncategorized"),
  (84, "Invalid or incomplete multibyte or wide character", "Uncategorized"),
  (85, "Interrupted system call should be restarted", "Uncategorized"),
  (86, "Streams pipe error", "Uncategorized"),
  (87, "Too many users", "Uncategorized"),
  (88, "Socket operation on non-socket", "Uncategorized"),
  (89, "Destination address required", "Uncategorized"),
  (90, "Message too long", "Uncategorized"),
  (91, "Protocol wrong type for socket", "Uncategorized"),
  (92, "Protocol not available", "Uncategorized"),
  (93, "Protocol not supported", "Uncategorized"),
  (94, "Socket type not supported", "Uncategorized"),
  (95, "Operation not supported", "Unsupported"),
  (96, "Protocol family not supported", "Uncategorized"),
  (97, "Address family not supported by protocol", "Uncategorized"),
  (98, "Address already in use", "AddrInUse"),
  (99, "Cannot assign requested address", "AddrNotAvailable"),
  (100, "Network is down", "NetworkDown"),
  (101, "Network is unreachable", "NetworkUnreachable"),
  (102, "Network dropped connection on reset", "Uncategorized"),
  (103, "Software caused connection abort", "ConnectionAborted"),
  (104, "Connection reset by peer", "ConnectionReset"),
  (105, "No buffer space available", "Uncategorized"),
  (106, "Transport endpoint is already connected", "Uncategorized"),
  (107, "Transport endpoint is not connected", "NotConnected"),
  (108, "Cannot send after transport endpoint shutdown", "Uncategorized"),
  (109, "Too many references: cannot splice", "Uncategorized"),
  (110, "Connection timed out", "TimedOut"),
  (111, "Connection refused", "ConnectionRefused"),
  (112, "Host is down", "Uncategorized"),
  (113, "No route to host", "HostUnreachable"),
  (114, "Operation already in progress", "Uncategorized"),
  (115, "Operation now in progress", "InProgress"),
  (116, "Stale file handle", "StaleNetworkFileHandle"),
  (117, "Structure needs cleaning", "Uncategorized"),
  (118, "Not a XENIX named type file", "Uncategorized"),
  (119, "No XENIX semaphores available", "Uncategorized"),
  (120, "Is a named type file", "Uncategorized"),
  (121, "Remote I/O error", "Uncategorized"),
  (122, "Disk quota exceeded", "QuotaExceeded"),
  (123, "No medium found", "Uncategorized"),
  (124, "Wrong medium type", "Uncategorized"),
  (125, "Operation canceled", "Uncategorized"),
  (126, "Required key not available", "Uncategorized"),
  (127, "Key has expired", "Uncategorized"),
  (128, "Key has been revoked", "Uncategorized"),
  (129, "Key was rejected by service", "Uncategorized"),
  (130, "Owner died", "Uncategorized"),
  (131, "State not recoverable", "Uncategorized"),
  (132, "Operation not possible due to RF-kill", "Uncategorized"),
  (133, "Memory page has hardware error", "Uncategorized")
]

def systemText (code : Int) : String :=
  match if code < 0 then none else systemErrors.lookup code.toNat with
  | some (text, _) => text
  | none => "Unknown error " ++ toString code

def systemKind (code : Int) : String :=
  match if code < 0 then none else systemErrors.lookup code.toNat with
  | some (_, kind) => kind
  | none => "Uncategorized"

end RoutingProcessor.Failure
