import Paperboat.Connector.Messages
/-!
# Live session identities

The registry maps a connector to the session that currently speaks for it. A
newer process generation replaces the entry; a close only ever removes the
entry it names.
-/

namespace Paperboat.Connector

open Lib

structure SessionRef where
  (tunnelID connectorID sessionID : String)
  processGeneration : UInt64
  deriving DecidableEq

def SessionRef.validate (r : SessionRef) : Option Err :=
  if !okIdentifier r.tunnelID || !okIdentifier r.connectorID || !okIdentifier r.sessionID ||
      r.processGeneration == 0 then some .invalidInput
  else none

structure AttachResult where
  current : SessionRef
  replaced : Option SessionRef

def SessionRegistry := String → Option SessionRef

namespace SessionRegistry

def new : SessionRegistry := fun _ => none

variable (r : SessionRegistry)

def set (connectorID : String) (entry : Option SessionRef) : SessionRegistry :=
  fun id => if id = connectorID then entry else r id

def attach (ref : SessionRef) : SessionRegistry × Except Err AttachResult :=
  if ref.validate.isSome then (r, .error .invalidInput)
  else match r ref.connectorID with
  | none => (r.set ref.connectorID (some ref), .ok ⟨ref, none⟩)
  | some previous =>
    if previous.tunnelID != ref.tunnelID then (r, .error (codeError .identityMismatch .authentication false none))
    else if ref.processGeneration ≤ previous.processGeneration then
      (r, .error (codeError .sessionConflict .staleGeneration false none))
    else (r.set ref.connectorID (some ref), .ok ⟨ref, some previous⟩)

def disconnect (ref : SessionRef) (reason : DisconnectReason) : SessionRegistry × Except Err Unit :=
  if ref.validate.isSome || !validDisconnectReason reason then (r, .error .invalidInput)
  else match r ref.connectorID with
  | none => (r, .ok ())
  | some current =>
    if current != ref then (r, .error (codeError .staleSession .staleGeneration false none))
    else (r.set ref.connectorID none, .ok ())

def active (connectorID : String) : Option SessionRef :=
  if okIdentifier connectorID then r connectorID else none

end SessionRegistry

end Paperboat.Connector
