import CallAudio.Json.Number

/-! JSON documents as values. The members of an object are kept in the order of their keys. -/
namespace CallAudio

inductive Json
  | null
  | bool (value : Bool)
  | number (value : Json.Number)
  | string (value : String)
  | array (items : List Json)
  | object (members : List (String × Json))
deriving Repr

namespace Json

def member? (key : String) : List (String × Json) → Option Json
  | [] => none
  | (k, v) :: rest => if k = key then some v else member? key rest

/-- The members with one added at its place in key order, instead of any older one of that key. -/
def putMember (key : String) (value : Json) : List (String × Json) → List (String × Json)
  | [] => [(key, value)]
  | (k, v) :: rest =>
    if k = key then (key, value) :: rest
    else if key < k then (key, value) :: (k, v) :: rest
    else (k, v) :: putMember key value rest

/-- The value as an unsigned 64-bit integer. -/
def natural? : Json → Option UInt64
  | number (.natural n) => some n
  | _ => none

def text? : Json → Option String
  | string s => some s
  | _ => none

end Json
end CallAudio
