import Launcher.Host.Errno
/-!
# Failed input and output

## Main definitions

* `Launcher.Host.IoFault` — why a file could not be opened, read or written.
-/

namespace Launcher.Host

/-- Why a file could not be opened, read or written. -/
inductive IoFault where
  /-- The host refused with this number. -/
  | refused (errno : Errno)
  /-- A path with a NUL in it names no file, and the host is not asked. -/
  | nulInPath
  /-- The bytes of the file are no text. -/
  | notText
  /-- Any other reason. -/
  | other (text : String)
  deriving Repr, DecidableEq

namespace IoFault

/-- The text shown for a fault. -/
def message : IoFault → String
  | refused errno => errno.message
  | nulInPath => "file name contained an unexpected NUL byte"
  | notText => "stream did not contain valid UTF-8"
  | other text => text

end IoFault

end Launcher.Host
