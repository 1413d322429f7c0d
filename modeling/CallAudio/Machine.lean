import CallAudio.EventLog
import CallAudio.Platform
import CallAudio.RouteState

/-! The state of the route state machine, with its history and what its requests lead to. -/
namespace CallAudio

/-- Why call audio could not be requested from a device. -/
inductive ConnectFailure
  | noSuchDevice
  | serviceUnavailable (profile : Profile)
  | activeDeviceRejected
  | scoRejected (reply : ScoReply)
deriving DecidableEq, Repr

def ConnectFailure.name : ConnectFailure → String
  | noSuchDevice => "NoSuchDevice"
  | serviceUnavailable profile => "ServiceUnavailable(" ++ profile.name ++ ")"
  | activeDeviceRejected => "ActiveDeviceRejected"
  | scoRejected reply => "ScoRejected(" ++ reply.name ++ ")"

inductive ConnectOutcome
  | reaffirmed (address : Address)
  | alreadyConnecting (address : Address)
  | started (address : Address)
  | rejected (address : Address)
  | noDevice
deriving DecidableEq, Repr

inductive HistoryEntry
  | noDevices (requested : Option Address)
  | connectFailed (target : Address) (attempt : Nat) (failure : ConnectFailure)
  | disconnectRequested (state : RouteState)
  | timedOut (address : Address)
  | unexpectedLoss (address : Address) (state : RouteState)
  | moved (source target : RouteState)
deriving DecidableEq, Repr

def HistoryEntry.text : HistoryEntry → String
  | noDevices requested =>
    "connect " ++ Text.optional Address.redacted requested ++ ": no devices available"
  | connectFailed target attempt failure =>
    "connect " ++ target.redacted ++ " attempt " ++ Nat.repr attempt ++ " failed: " ++ failure.name
  | disconnectRequested state => "disconnect requested in " ++ state.text
  | timedOut address => "connection to " ++ address.redacted ++ " timed out"
  | unexpectedLoss address state =>
    "unexpected audio loss for " ++ address.redacted ++ " in " ++ state.text
  | moved source target => source.text ++ " -> " ++ target.text

/-- Timers are held by their numbers; `recent` has the devices that carried audio, latest last. -/
structure Machine where
  state : RouteState := .audioOff
  retry : Option Nat := none
  connectionTimer : Option Nat := none
  recent : List Address := []
  history : EventLog HistoryEntry

namespace Machine

def ofCapacity (capacity : Nat) : Machine := { history := .ofCapacity capacity }

def use (m : Machine) (address : Address) : Machine :=
  { m with recent := m.recent.filter (· ≠ address) ++ [address] }

def unuse (m : Machine) (address : Address) : Machine :=
  { m with recent := m.recent.filter (· ≠ address) }

end Machine
end CallAudio
