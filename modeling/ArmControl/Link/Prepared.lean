import ArmControl.Link.Basic

/-!
# Prepared links

A `Prepared` line answers from lists that were drawn up beforehand, one entry for each operation.
When a list is used up the operation succeeds with an ordinary answer. Injections do nothing.
-/

namespace ArmControl

/-- A prepared answer to waiting for a state: an error, which may depend on the time waited for,
or changes to the ordinary next state. -/
inductive PreparedState
  | failure (error : Duration → LinkError)
  | state (time : Option Duration) (change : ArmState → ArmState)

/-- A prepared answer to a request. -/
inductive PreparedResponse
  | failure (error : Duration → LinkError)
  | response (response : Response)

/-- A line with prepared answers, and what has passed over it. -/
structure Prepared where
  version : UInt16 := 5
  base : ArmState := {}
  states : List PreparedState := []
  sends : List (Option LinkError) := []
  responses : List PreparedResponse := []
  clock : Duration := .zero
  nextId : UInt64 := 1
  record : LinkRecord := {}

namespace Prepared

/-- Hands out the ordinary next state, changed as prepared. Without a prepared time a state is one
millisecond later than the state before it. -/
def produce (time : Option Duration) (change : ArmState → ArmState) (p : Prepared) :
    LinkStep Prepared ArmState :=
  match time <|> p.clock.add? (.ofMillis 1) with
  | none => ⟨p, [], .overflow⟩
  | some time =>
      let state := { change { p.base with messageId := p.nextId } with time }
      ⟨{ p with clock := time, nextId := p.nextId + 1, record := p.record.addState }, [],
        .value state⟩

/-- Answers with the next prepared state. -/
def receive (timeout : Duration) (p : Prepared) : LinkStep Prepared ArmState :=
  match p.states with
  | [] => produce none id p
  | .failure error :: states => ⟨{ p with states }, [], .failure (error timeout)⟩
  | .state time change :: states => produce time change { p with states }

/-- Accepts a command unless an error is prepared. -/
def send (c : Command) (p : Prepared) : LinkStep Prepared Unit :=
  match p.sends with
  | [] => ⟨{ p with record := p.record.addCommand c }, [], .value ()⟩
  | none :: sends => ⟨{ p with sends, record := p.record.addCommand c }, [], .value ()⟩
  | some error :: sends => ⟨{ p with sends }, [], .failure error⟩

/-- Answers with the next prepared response. -/
def request (q : Request) (timeout : Duration) (p : Prepared) : LinkStep Prepared Response :=
  let p := { p with record := p.record.addRequest q }
  match p.responses with
  | [] => ⟨p, [], .value (.success .done)⟩
  | .failure error :: responses => ⟨{ p with responses }, [], .failure (error timeout)⟩
  | .response response :: responses => ⟨{ p with responses }, [], .value response⟩

/-- The prepared answers as a link. -/
def link : Link Prepared where
  receive := receive
  send := send
  request := request
  version p := p.version
  inject _ p := p
  record p := p.record

end Prepared

end ArmControl
