import MessageInspector.Fetch.Preview
/-!
# A scripted broker

A management interface with a fixed stock of messages and a script of failures, to rehearse the
console against. Each call for info or content uses up one entry of its script; when none is left,
or the entry is empty, the stock answers.
-/
namespace MessageInspector.Simulation

structure ScriptedBroker where
  /-- Info texts by message. -/
  infos : List (String × String)
  /-- Contents by message. -/
  contents : List (String × List UInt8)
  /-- The size that answers declare, in place of the true one. -/
  declared : Option Nat
  /-- Refuse every call that asks for headers. -/
  forbidHeaders : Bool
  /-- Answer with the whole content whatever the limit. -/
  ignoreLimit : Bool
  infoScript : List (Option ApiError)
  contentScript : List (Option ApiError)

namespace ScriptedBroker

def headersKey : String := "headers"

def withoutHeaders : Json.Value → Json.Value
  | .object members => .object (members.filter (·.1 ≠ headersKey))
  | v => v

def infoOfText (text : String) (includeHeaders : Bool) : Except ApiError MessageInfo :=
  match Json.readText text with
  | .error _ => .error (.parse unreadable)
  | .ok v => MessageInfo.ofValue (if includeHeaders then v else withoutHeaders v)

def stockInfo (broker : ScriptedBroker) (query : InfoQuery) : Except ApiError MessageInfo :=
  if broker.forbidHeaders ∧ query.includeHeaders then .error (.authorization ApiError.forbidden)
  else
    match broker.infos.lookup query.id.text with
    | none => .error (.transport ("404 message " ++ query.id.text))
    | some text => infoOfText text query.includeHeaders

def stockContent (broker : ScriptedBroker) (query : ContentQuery) :
    Except ApiError ContentPayload :=
  match broker.contents.lookup query.id.text with
  | none => .error (.transport ("404 content " ++ query.id.text))
  | some bytes =>
    .ok
      { bytes :=
          match query.limit with
          | some limit => if broker.ignoreLimit then bytes else bytes.take limit
          | none => bytes
        declaredSize := some (broker.declared.getD bytes.length) }

/-- Answer a call for info and use up one entry of the script. -/
def answerInfo (broker : ScriptedBroker) (query : InfoQuery) :
    Except ApiError MessageInfo × ScriptedBroker :=
  let after := { broker with infoScript := broker.infoScript.tail }
  match broker.infoScript with
  | some e :: _ => (.error e, after)
  | _ => (broker.stockInfo query, after)

def answerContent (broker : ScriptedBroker) (query : ContentQuery) :
    Except ApiError ContentPayload × ScriptedBroker :=
  let after := { broker with contentScript := broker.contentScript.tail }
  match broker.contentScript with
  | some e :: _ => (.error e, after)
  | _ => (broker.stockContent query, after)

def downloadUrl (object : ManagedObject) (query : ContentQuery) : String :=
  object.operationUrl "http://broker" getMessageContent query.parameters

end ScriptedBroker

def callUrl : Call → String
  | .info object query => object.operationUrl "" getMessageInfo query.parameters
  | .content object query _ => object.operationUrl "" getMessageContent query.parameters

end MessageInspector.Simulation
