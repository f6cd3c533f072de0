/-
**Why a service of the device did not do what it was asked.**

* `Failure`: the kinds of failure;
* `Failure.message`: the text of a failure.
-/

import TouchDispatch.Disk.Errno
import TouchDispatch.Json.Message

namespace TouchDispatch

/-- The kinds of failure of a service. -/
inductive Failure where
  /-- Files could not be read or written. -/
  | io (cause : IoCause)
  /-- A device node could not be written. -/
  | node (path : String) (cause : IoCause)
  /-- A text is no JSON. -/
  | json (fault : Json.Fault)
  /-- A shell command could not be started or ended with an error. -/
  | command (line message : String)
  /-- The device does not have the service. -/
  | unavailable (service : String)
  /-- An input device failed. -/
  | input (reason : String)

namespace Failure

/-- The text of a failure. -/
def message : Failure → String
  | io cause => "IO error: " ++ cause.text
  | node path cause => "write to " ++ path ++ " failed: " ++ cause.text
  | json fault => "JSON error: " ++ fault.message
  | command line message => "command `" ++ line ++ "` failed: " ++ message
  | unavailable service => service ++ " unavailable"
  | input reason => "input device error: " ++ reason

end Failure

end TouchDispatch
