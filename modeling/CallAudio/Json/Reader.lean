import CallAudio.Json.Token

/-! Reading a JSON document from its tokens with a stack of the brackets still open. -/
namespace CallAudio.Json

/-- An open bracket with what was read behind it; the items of an array are held last first. -/
inductive Frame
  | array (items : List Json)
  | object (members : List (String × Json))
  | member (members : List (String × Json)) (key : String)
deriving Repr

inductive Phase
  | value
  | itemOrClose
  | keyOrClose
  | key
  | colon (key : String)
  | separator
  | complete (document : Json)
deriving Repr

structure Reader where
  frames : List Frame
  phase : Phase
deriving Repr

namespace Reader

/-- How many brackets may be open at once. -/
def maxDepth : Nat := 127

def start : Reader := ⟨[], .value⟩

/-- A value is complete: it goes into the innermost open bracket. -/
def deliver (value : Json) : List Frame → Option Reader
  | [] => some ⟨[], .complete value⟩
  | .array items :: rest => some ⟨.array (value :: items) :: rest, .separator⟩
  | .member members key :: rest => some ⟨.object (putMember key value members) :: rest, .separator⟩
  | .object _ :: _ => none

def enter (frame : Frame) (phase : Phase) (frames : List Frame) : Option Reader :=
  if frames.length < maxDepth then some ⟨frame :: frames, phase⟩ else none

def beginValue (frames : List Frame) : Token → Option Reader
  | .scalar v => deliver v frames
  | .openArray => enter (.array []) .itemOrClose frames
  | .openObject => enter (.object []) .keyOrClose frames
  | _ => none

def beginKey (frames : List Frame) : Token → Option Reader
  | .scalar (.string key) => some ⟨frames, .colon key⟩
  | _ => none

def close (frames : List Frame) : Token → Option Reader
  | .closeArray => match frames with
    | .array items :: rest => deliver (.array items.reverse) rest
    | _ => none
  | .closeObject => match frames with
    | .object members :: rest => deliver (.object members) rest
    | _ => none
  | _ => none

def separate (frames : List Frame) : Option Reader :=
  match frames with
  | .array _ :: _ => some ⟨frames, .value⟩
  | .object _ :: _ => some ⟨frames, .key⟩
  | _ => none

def next (reader : Reader) (token : Token) : Option Reader :=
  match reader.phase with
  | .value => beginValue reader.frames token
  | .itemOrClose => (close reader.frames token).orElse fun _ => beginValue reader.frames token
  | .keyOrClose => (close reader.frames token).orElse fun _ => beginKey reader.frames token
  | .key => beginKey reader.frames token
  | .colon key => match token, reader.frames with
    | .colon, .object members :: rest => some ⟨.member members key :: rest, .value⟩
    | _, _ => none
  | .separator => match token with
    | .comma => separate reader.frames
    | t => close reader.frames t
  | .complete _ => none

end Reader

def ofTokens? (tokens : List Token) : Option Json := do
  let reader ← tokens.foldlM Reader.next Reader.start
  match reader.phase with
  | .complete document => some document
  | _ => none

def parse? (text : String) : Option Json := do ofTokens? (← Token.scan text.toList)

end CallAudio.Json
