import ClassList.Trace

/-! Ordering oracles, which are asked for the canonical order of classes and may answer anything. -/

namespace ClassList

/-- What comes back from an oracle: a value, which ought to be a text, or a failure. A failure is an exception
that a caller can handle and that can be put into words; its reason is these words. -/
inductive Answer where
  | value (v : Value)
  | failure (reason : Text)

/-- An oracle answers a question in view of the questions before it, oldest first. A consultation may
report events and start a process. -/
structure Oracle where
  answer : (earlier : List Text) → (question : Text) → Answer
  events : Text → List Event := fun _ => []
  invocation? : Text → Option Invocation := fun _ => none

namespace Oracle

/-- An oracle that looks at the question alone. -/
def ofFunction (f : Text → Answer) : Oracle where
  answer _ question := f question

def ask (oracle : Oracle) (question : Text) : Run Answer := fun trace =>
  (oracle.answer trace.questions question,
    { events := trace.events ++ oracle.events question
      questions := trace.questions ++ [question]
      invocations := trace.invocations ++ (oracle.invocation? question).toList })

end Oracle

/-- The text of an answer, or the reason why there is none. -/
def Answer.text : Answer → Except Text Text
  | .value (.text s) => .ok s
  | .value v => .error ("oracle returned " ++ v.typeName ++ ", expected str")
  | .failure reason => .error reason

end ClassList
