/-! How optional values, pairs and lists are written in the history and in dumps. -/
namespace CallAudio.Text

/-- An optional value is written with its presence: `Some(x)` or `None`. -/
def optional {α : Type} (write : α → String) : Option α → String
  | none => "None"
  | some x => "Some(" ++ write x ++ ")"

def listed {α : Type} (write : α → String) (items : List α) : String :=
  "[" ++ ", ".intercalate (items.map write) ++ "]"

def paired {α β : Type} (left : α → String) (right : β → String) (pair : α × β) : String :=
  "(" ++ left pair.1 ++ ", " ++ right pair.2 ++ ")"

end CallAudio.Text
