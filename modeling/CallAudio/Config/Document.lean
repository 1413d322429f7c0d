import CallAudio.Config
import CallAudio.Json.Reader

/-! Configurations read from texts and from files. -/
namespace CallAudio

/-- Why a text gives no configuration. -/
inductive DocumentError
  | notJson
  | config (cause : ConfigError)
deriving Repr

/-- Why a file gives no configuration: it cannot be read as text, or its text gives none. -/
inductive LoadError
  | unreadable
  | invalid (cause : DocumentError)
deriving Repr

def LoadError.message (path : String) : LoadError → String
  | unreadable => "failed to read route config " ++ path
  | invalid _ => "invalid route config " ++ path

namespace RouteConfig

def ofText (text : String) : Except DocumentError RouteConfig :=
  match Json.parse? text with
  | none => .error .notJson
  | some document => (ofJson document).mapError .config

/-- The configuration held by a file's bytes; a missing file has none, and the bytes must be
UTF-8. -/
def load (content : Option ByteArray) : Except LoadError RouteConfig :=
  match content.bind String.fromUTF8? with
  | none => .error .unreadable
  | some text => (ofText text).mapError .invalid

end RouteConfig
end CallAudio
