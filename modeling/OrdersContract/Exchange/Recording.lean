import OrdersContract.Document.Field
import OrdersContract.Exchange.Basic

set_option autoImplicit false

namespace OrdersContract

structure RecordedAnswer where
  result : Except TransportError Response
  requests : Nat

namespace RecordedAnswer

open Json

def text? (name : String) (node : Value) : Option String :=
  (node.field name).value?.bind Value.string?

def count? (name : String) (node : Value) : Option Nat :=
  match node.field name with
  | .present (.number (.integer n)) => some n.val.toNat
  | _ => none

/-- An answer as an object with `status`, `content_type`, `body` and `requests`, or with an
`error` in place of the response. -/
def ofValue (node : Value) : RecordedAnswer where
  result :=
    match text? "error" node with
    | some message => .error (.request message)
    | none => .ok
        { status := (count? "status" node).getD 200
          contentType := text? "content_type" node
          body := Text.Utf8.encode ((text? "body" node).getD "").toList }
  requests := (count? "requests" node).getD 1

end RecordedAnswer

structure Recording where
  answers : List RecordedAnswer
  asked : List Query
  issued : Nat

namespace Recording

def start (answers : List RecordedAnswer) : Recording := ⟨answers, [], 0⟩

-- For a recording without answers.
def noAnswer : RecordedAnswer := ⟨.error (.request "no response"), 1⟩

-- The next answer; the last one is given again and again.
def next (recording : Recording) : RecordedAnswer × List RecordedAnswer :=
  match recording.answers with
  | [] => (noAnswer, [])
  | [last] => (last, [last])
  | answer :: rest => (answer, rest)

def fetch (query : Query) (recording : Recording) :
    Except TransportError Response × Recording :=
  let (answer, rest) := recording.next
  (answer.result, ⟨rest, recording.asked ++ [query], recording.issued + answer.requests⟩)

def fetcher (endpoint : Address) : Fetcher Recording where
  target query _ := (endpoint.withQuery query).text
  fetch := fetch
  issued := issued

end Recording

end OrdersContract
