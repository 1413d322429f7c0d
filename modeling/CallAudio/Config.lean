import CallAudio.Duration
import CallAudio.EventLog
import CallAudio.Json.Printer
import CallAudio.LogLevel

/-! Tunables of route switching and how a JSON object gives them. Keys that are absent keep their
default value and unknown keys are ignored. -/
namespace CallAudio

def maxRetries : Nat := 2

def queryTimeout : Duration := .ofMillis 1000

structure RouteConfig where
  logLevel : LogLevel := .info
  connectionTimeout : Duration := .ofMillis 6000
  transitionTimeout : Duration := .ofMillis 10000
  retryBackoff : Duration := .ofMillis 500
  headsetBindTimeout : Duration := .ofMillis 500
  logCapacity : UInt64 := .ofNat EventLog.defaultCapacity
deriving DecidableEq, Repr

/-- What is wrong with a document that is JSON, with the value at fault. -/
inductive ConfigError
  | notAnObject
  | badLogLevel (value : Json)
  | badMilliseconds (value : Json)
  | badLogCapacity (value : Json)
deriving Repr

def ConfigError.message : ConfigError → String
  | notAnObject => "route config must be a JSON object"
  | badLogLevel v => "bad log_level " ++ v.compact
  | badMilliseconds v => "expected milliseconds, got " ++ v.compact
  | badLogCapacity v => "bad local_log_capacity " ++ v.compact

namespace RouteConfig

/-- How often the base delay is doubled before a retry: once for each attempt after the first, sixteen
times at most. -/
def doublings (attempt : Nat) : Nat := min (attempt - 1) 16

def backoffFactor (attempt : Nat) : UInt32 := 1 <<< (doublings attempt).toUInt32

/-- The delay before a retry. -/
def backoff (c : RouteConfig) (attempt : Nat) : Duration :=
  c.retryBackoff.saturatingMul (backoffFactor attempt)

/-- What a member's value means; without the member the fallback holds, and a value that means nothing
is refused. -/
def valueOf {α : Type} (meaning : Json → Option α) (refusal : Json → ConfigError) (fallback : α) :
    Option Json → Except ConfigError α
  | none => .ok fallback
  | some v => match meaning v with
    | some x => .ok x
    | none => .error (refusal v)

def levelOf : LogLevel → Option Json → Except ConfigError LogLevel :=
  valueOf (fun v => v.text?.bind LogLevel.ofName?) .badLogLevel

def millisOf : Duration → Option Json → Except ConfigError Duration :=
  valueOf (fun v => v.natural?.map .ofMillis) .badMilliseconds

def capacityOf : UInt64 → Option Json → Except ConfigError UInt64 :=
  valueOf Json.natural? .badLogCapacity

/-- The configuration given by an object's members. The first bad key in this order is reported. -/
def ofMembers (members : List (String × Json)) : Except ConfigError RouteConfig := do
  let base : RouteConfig := {}
  let millis (fallback : Duration) (key : String) := millisOf fallback (Json.member? key members)
  let logLevel ← levelOf base.logLevel (Json.member? "log_level" members)
  let connectionTimeout ← millis base.connectionTimeout "connection_timeout_ms"
  let transitionTimeout ← millis base.transitionTimeout "transition_timeout_ms"
  let retryBackoff ← millis base.retryBackoff "retry_backoff_ms"
  let headsetBindTimeout ← millis base.headsetBindTimeout "headset_bind_timeout_ms"
  let logCapacity ← capacityOf base.logCapacity (Json.member? "local_log_capacity" members)
  return ⟨logLevel, connectionTimeout, transitionTimeout, retryBackoff, headsetBindTimeout, logCapacity⟩

def ofJson : Json → Except ConfigError RouteConfig
  | .object members => ofMembers members
  | _ => .error .notAnObject

end RouteConfig
end CallAudio
