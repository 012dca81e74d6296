import MessageInspector.Broker.Operation
import MessageInspector.Message.Info
import MessageInspector.Report
/-!
# Fetching message info

A fetch asks with the scope of its session. If headers were asked for and refused, the session does
without headers from then on and the fetch asks once more, without them; any other answer is final.
A fetch is described by its unanswered call, and an answer moves it on.
-/
namespace MessageInspector

inductive Call
  | info (object : ManagedObject) (query : InfoQuery)
  | content (object : ManagedObject) (query : ContentQuery) (contentType : String)
deriving DecidableEq, Repr

inductive Event
  | called (call : Call)
  | reported (report : Report)
deriving DecidableEq, Repr

namespace Event

def call? : Event → Option Call
  | called call => some call
  | reported _ => none

def report? : Event → Option Report
  | called _ => none
  | reported report => some report

end Event

/-- Message info with the scope of the call that returned it. -/
structure FetchedInfo where
  info : MessageInfo
  scope : FetchScope

/-- Confidential parts may be shown if nothing was left out. -/
def FetchedInfo.includesConfidential (fetched : FetchedInfo) : Bool :=
  fetched.scope.includesHeaders

/-- A fetch whose call with this scope is unanswered. -/
structure InfoFetch where
  object : ManagedObject
  id : MessageId
  scope : FetchScope
deriving DecidableEq, Repr

inductive InfoFetchNext
  | again (fetch : InfoFetch)
  | done (answer : Except ApiError FetchedInfo)

structure InfoFetchStep where
  session : FetchScope
  next : InfoFetchNext
  events : List Event

namespace InfoFetch

def call (fetch : InfoFetch) : Call :=
  .info fetch.object ⟨fetch.id, fetch.scope.includesHeaders⟩

def events (fetch : InfoFetch) : List Event :=
  [.reported (.loadingInfo fetch.id fetch.scope), .called fetch.call]

def withoutHeaders (fetch : InfoFetch) : InfoFetch := { fetch with scope := .headersExcluded }

def isRefusal (fetch : InfoFetch) (e : ApiError) : Bool :=
  e.isForbidden && fetch.scope == .headersIncluded

/-- The answer to the fetch's call. A refusal is reported only if it changes the session. -/
def answer (fetch : InfoFetch) (session : FetchScope) :
    Except ApiError MessageInfo → InfoFetchStep
  | .ok info => ⟨session, .done (.ok ⟨info, fetch.scope⟩), []⟩
  | .error e =>
    if fetch.isRefusal e then
      { session := .headersExcluded
        next := .again fetch.withoutHeaders
        events :=
          (if session = .headersIncluded then [.reported (.headersRefused fetch.id)] else []) ++
            fetch.withoutHeaders.events }
    else ⟨session, .done (.error e), []⟩

end InfoFetch
end MessageInspector
