/-
**The interface for status and settings.**

* `Api.stateJson`: the status together with what the settings come to;
* `Api.applyBody`: merges a JSON object of texts, numbers and booleans into the settings, all of
  it or nothing;
* `Api.respond`: the answer to an HTTP request.
-/

import TouchDispatch.Daemon.Status
import TouchDispatch.Failure
import TouchDispatch.Json.Printer
import TouchDispatch.Settings.Store

namespace TouchDispatch.Api

open TouchDispatch.Json TouchDispatch.Settings

/-- A text or null. -/
def optionalText : Option String → Value
  | some text => .text text
  | none => .null

/-- A natural number. -/
def count (n : Nat) : Value :=
  .number (.whole n)

/-- An object with the given members. -/
def record (members : List (String × Value)) : Value :=
  .object (Fields.ofList members)

/-- The status. -/
def statusJson (status : Status) : Value :=
  record [
    ("settings_rev", count status.settingsRevision),
    ("last_settings_error", optionalText status.lastSettingsError),
    ("info", record [
      ("screen_on", .bool status.screenOn),
      ("torch_enabled", .bool status.torchOn),
      ("hardware_keys_disabled", .bool status.keysDisabled),
      ("last_gesture", optionalText status.lastGesture),
      ("last_gesture_at_ms", match status.lastGestureAt with
        | some time => .number (.whole time)
        | none => .null)]),
    ("sensors", record [
      ("proximity_present", .bool status.sensors.proximityPresent),
      ("tilt_present", .bool status.sensors.tiltPresent),
      ("proximity_listening", .bool status.sensors.proximityListening),
      ("tilt_listening", .bool status.sensors.tiltListening),
      ("proximity_near", .bool status.sensors.proximityNear)]),
    ("counters", record [
      ("dispatched", count status.counters.dispatched),
      ("superseded", count status.counters.superseded),
      ("blocked", count status.counters.blocked),
      ("doze_pulses", count status.counters.dozePulses)])]

/-- What the settings come to. -/
def effectiveJson (table : Table) : Value :=
  let features := doze table
  record [
    ("hardware_keys_disabled", .bool (keysDisabled table)),
    ("proximity_check", .bool (proximityCheck table)),
    ("gesture_feedback", .bool (feedback table)),
    ("doze", record [
      ("wave", .bool features.wave),
      ("pocket", .bool features.pocket),
      ("tilt", .bool features.tilt)]),
    ("slider", .text (sliderMap table).setting),
    ("bindings", record (Channel.all.map fun channel =>
      (channel.name, .text (binding table channel).setting)))]

/-- The status together with what the settings come to. -/
def stateJson (status : Status) (table : Table) : Value :=
  record [("state", statusJson status), ("effective", effectiveJson table)]

/-- Why a request to change settings is refused. -/
inductive Refusal where
  /-- The body is not one JSON object. -/
  | malformed (fault : Fault)
  /-- The value of a name is neither a text nor a number nor a boolean. -/
  | notScalar (name : String)
  /-- The settings could not be written. -/
  | unwritable (cause : IoCause)

/-- The text of a refusal. -/
def Refusal.message : Refusal → String
  | malformed fault => fault.message
  | notScalar name => name ++ ": only strings, numbers and booleans are allowed"
  | unwritable cause => (Failure.io cause).message

/-- The values of a body: a JSON object of texts, numbers and booleans. -/
def readBody (body : List UInt8) : Except Refusal Table :=
  match object body with
  | .error fault => .error (.malformed fault)
  | .ok values =>
    match values.find? fun member => !member.2.isScalar with
    | some member => .error (.notScalar member.1)
    | none => .ok values

/-- Merges the values of a body into the settings. The result is the names whose values changed. -/
def applyBody (store : Store) (disk : Disk) (body : List UInt8) :
    Outcome (Except Refusal (List String)) :=
  match readBody body with
  | .error refusal => ⟨.error refusal, store, disk⟩
  | .ok values =>
    let outcome := store.update disk values
    { outcome with result := outcome.result.mapError .unwritable }

/-- An answer to an HTTP request. -/
structure Response where
  status : Nat
  contentType : String
  body : String
deriving DecidableEq, Repr

/-- An answer in JSON. -/
def jsonResponse (value : Value) : Response :=
  ⟨200, "application/json", String.ofList value.compact⟩

/-- An answer that something is wrong, in words. -/
def textResponse (status : Nat) (text : String) : Response :=
  ⟨status, "text/plain; charset=UTF-8", text⟩

/-- An answer, with the status, the store and the tree after the request. -/
structure Reply where
  response : Response
  status : Status
  store : Store
  disk : Disk

/-- Answers an HTTP request. A refused change is shown as the last error of the settings. -/
def respond (status : Status) (store : Store) (disk : Disk) (method url : String)
    (body : List UInt8) : Reply :=
  if url = "/api/state" ∧ method = "GET" then
    ⟨jsonResponse (stateJson status store.table), status, store, disk⟩
  else if url = "/api/settings" ∧ method = "GET" then
    ⟨jsonResponse (.object store.table), status, store, disk⟩
  else if url = "/api/settings" ∧ method = "POST" then
    let outcome := applyBody store disk body
    match outcome.result with
    | .ok names =>
      let answer := record [
        ("changed", .array (names.map .text)),
        ("rev", count outcome.store.revision)]
      ⟨jsonResponse answer, status, outcome.store, outcome.disk⟩
    | .error refusal =>
      ⟨textResponse 400 refusal.message, status.complain (some refusal.message), outcome.store,
        outcome.disk⟩
  else
    ⟨textResponse 404 "not found", status, store, disk⟩

end TouchDispatch.Api
