/-
**A phone, as its shell and its file tree show it.**

* `Phone`: the file tree, which programs are there, and what the programs that are still to run
  will answer;
* `Phone.run`: runs a command line as the shell user, and without changing the user if that does
  not work.
-/

import TouchDispatch.Disk.Value

namespace TouchDispatch

open TouchDispatch.Text

/-- What a program leaves behind. -/
structure ProgramResult where
  output : List UInt8 := []
  errors : List UInt8 := []
  /-- The exit code; none if a signal ended the program. -/
  code : Option Int := some 0

/-- Whether a program was successful. -/
def ProgramResult.succeeded (result : ProgramResult) : Bool :=
  result.code == some 0

/-- A phone. -/
structure Phone where
  disk : Disk := {}
  /-- Whether there is a program that changes the user. -/
  hasSu : Bool := true
  /-- Whether there is a shell. -/
  hasSh : Bool := true
  /-- What the next programs leave behind. Once these are used up, programs succeed in silence. -/
  results : List ProgramResult := []
  /-- The arguments of the programs that were run, in order. -/
  ran : List (List String) := []

namespace Phone

/-- The program that changes the user. -/
def su : String := "su"

/-- The shell. -/
def sh : String := "sh"

/-- The program that talks to the services of the system. -/
def cmd : String := "cmd"

/-- The command line of a request to a service. -/
def serviceLine (arguments : String) : String :=
  cmd ++ " " ++ arguments

/-- The reason why an argument with a NUL in it cannot be handed to a program. -/
def nulReason : String := "nul byte found in provided data"

/-- The number of octets that one argument of a program may have. -/
def maxArgument : Nat := 131071

/-- Runs a program. It fails to start if it is missing, or if an argument has a NUL in it or is too
long. -/
def exec (phone : Phone) (present : Bool) (arguments : List String) :
    Except IoCause ProgramResult × Phone :=
  if arguments.any fun argument => argument.toList.contains '\x00' then
    (.error (.other nulReason), phone)
  else if !present then
    (.error (.os .notFound), phone)
  else if arguments.any fun argument => decide (maxArgument < argument.utf8ByteSize) then
    (.error (.os .argumentsTooLong), phone)
  else
    (.ok (phone.results.headD {}),
      { phone with results := phone.results.tail, ran := phone.ran ++ [arguments] })

/-- Why a command failed that ran to its end. -/
def complaint (result : ProgramResult) : String :=
  "code=" ++ String.ofList (Decimal.integer (result.code.getD (-1))) ++ " " ++
    trimmed (Utf8.stringLossy result.errors)

/-- Runs a command line in a shell without changing the user. -/
def runPlain (phone : Phone) (line : String) : Except Failure String × Phone :=
  match phone.exec phone.hasSh [sh, "-c", line] with
  | (.error cause, phone) => (.error (.command line cause.text), phone)
  | (.ok result, phone) =>
    if result.succeeded then (.ok (Utf8.stringLossy result.output), phone)
    else (.error (.command line (complaint result)), phone)

/-- Runs a command line as the shell user; if that does not work, without changing the user. The
answer is what the command wrote. -/
def run (phone : Phone) (line : String) : Except Failure String × Phone :=
  match phone.exec phone.hasSu [su, "-lp", "2000", "-c", line] with
  | (.ok result, phone) =>
    if result.succeeded then (.ok (Utf8.stringLossy result.output), phone)
    else phone.runPlain line
  | (.error _, phone) => phone.runPlain line

/-- Runs a command line for its effect. -/
def command (phone : Phone) (line : String) : Except Failure Unit × Phone :=
  let (result, phone) := phone.run line
  (result.map fun _ => (), phone)

/-- Writes a value to a node that some devices do not have. -/
def writeNode (phone : Phone) (service : String) (node : Path) (value : String) :
    Except Failure Unit × Phone :=
  if phone.disk.has node then
    match phone.disk.writeLine node value with
    | .ok disk => (.ok (), { phone with disk })
    | .error failure => (.error failure, phone)
  else
    (.error (.unavailable service), phone)

end Phone

end TouchDispatch
