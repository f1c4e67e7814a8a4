import ArmControl.ArmState
import ArmControl.Command
import ArmControl.Event

/-!
# Links

A `Link σ` is a way to exchange messages with a controller. Its operations are pure: each takes
the state `σ` of the line and gives the state afterwards, the events that it reports, and an
`Answer`. Whatever a controller does is covered by a suitable choice of `σ`.
-/

namespace ArmControl

/-- What an operation on a link came to. The third case ends the program: a clock passed the
greatest duration. -/
inductive Answer (α : Type)
  | value (a : α)
  | failure (error : LinkError)
  | overflow

/-- An operation on a line: the line afterwards, the events reported, and the answer. -/
structure LinkStep (σ α : Type) where
  line : σ
  events : List Event := []
  answer : Answer α

/-- What a link has recorded about the messages that passed. -/
structure LinkRecord where
  sent : Array Command := #[]
  requests : Array Request := #[]
  statesProduced : UInt64 := 0

namespace LinkRecord

instance : Inhabited LinkRecord := ⟨{}⟩

/-- The record after a command that was accepted. -/
def addCommand (r : LinkRecord) (c : Command) : LinkRecord := { r with sent := r.sent.push c }

/-- The record after a request that arrived. -/
def addRequest (r : LinkRecord) (q : Request) : LinkRecord :=
  { r with requests := r.requests.push q }

/-- The record after a state that was handed out. -/
def addState (r : LinkRecord) : LinkRecord := { r with statesProduced := r.statesProduced + 1 }

end LinkRecord

/-- A way to exchange messages with a controller over a line in a state of type `σ`. -/
structure Link (σ : Type) where
  /-- Waits for a state, for at most the given time. -/
  receive : Duration → σ → LinkStep σ ArmState
  /-- Hands over the command of this cycle. -/
  send : Command → σ → LinkStep σ Unit
  /-- Makes a request and waits for the response, for at most the given time. -/
  request : Request → Duration → σ → LinkStep σ Response
  /-- The version of the protocol that the controller speaks. -/
  version : σ → UInt16
  /-- Disturbs the line from outside. -/
  inject : Injection → σ → σ
  /-- What the line has recorded. -/
  record : σ → LinkRecord

end ArmControl
