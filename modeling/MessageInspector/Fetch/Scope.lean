import MessageInspector.Json.Record
/-!
# Fetch scope

Whether the headers of a message are requested along with its info. Headers are confidential, and
a principal who may not read them is refused the whole request.
-/
namespace MessageInspector

inductive FetchScope
  | headersIncluded
  | headersExcluded
deriving DecidableEq, Repr

namespace FetchScope

def includesHeaders : FetchScope → Bool
  | headersIncluded => true
  | headersExcluded => false

def name : FetchScope → String
  | headersIncluded => "HeadersIncluded"
  | headersExcluded => "HeadersExcluded"

def named? (s : String) : Option FetchScope :=
  if s = headersIncluded.name then some headersIncluded
  else if s = headersExcluded.name then some headersExcluded
  else none

def reader : Json.Reader FetchScope := Json.variant named?

def toValue (scope : FetchScope) : Json.Value := .string scope.name

end FetchScope
end MessageInspector
