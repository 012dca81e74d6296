import Mathlib.Control.Monad.Basic
import MessageInspector.Fetch.Preview
/-!
# Exchanges with the management interface

An answered call is an exchange. A fetch of message info goes through one exchange, or through two
if the first was refused because of its headers, and ends with the answer to the last.
-/
namespace MessageInspector

/-- An answered call: the fetch that made it, and the answer. -/
structure Exchange (φ α : Type) where
  fetch : φ
  answer : Except ApiError α
deriving DecidableEq

abbrev InfoExchange := Exchange InfoFetch MessageInfo

abbrev ContentExchange := Exchange PreviewFetch ContentPayload

namespace InfoExchange

/-- Headers were asked for, and the answer is status 403. -/
def Refused (x : InfoExchange) : Prop :=
  x.fetch.scope = .headersIncluded ∧ x.answer = .error (.authorization 403)

/-- The answer, tagged with the scope of its call. -/
def result (x : InfoExchange) : Except ApiError FetchedInfo := x.answer.map (⟨·, x.fetch.scope⟩)

theorem result_eq_ok {x : InfoExchange} {fetched : FetchedInfo} :
    x.result = .ok fetched ↔ x.answer = .ok fetched.info ∧ x.fetch.scope = fetched.scope := by
  obtain ⟨fetch, answer⟩ := x
  obtain ⟨info, scope⟩ := fetched
  cases answer <;> simp [result, Except.map]

end InfoExchange

theorem FetchedInfo.scope_of_includesConfidential (fetched : FetchedInfo)
    (h : fetched.includesConfidential = true) : fetched.scope = .headersIncluded := by
  obtain ⟨info, scope⟩ := fetched
  cases scope with
  | headersIncluded => rfl
  | headersExcluded => cases h

namespace InfoFetch

theorem isRefusal_iff (fetch : InfoFetch) (e : ApiError) :
    fetch.isRefusal e = true ↔ InfoExchange.Refused ⟨fetch, .error e⟩ := by
  cases e <;>
    simp [isRefusal, ApiError.isForbidden, ApiError.status?, ApiError.forbidden,
      InfoExchange.Refused, and_comm]

theorem withoutHeaders_not_refused (fetch : InfoFetch) (answer : Except ApiError MessageInfo) :
    ¬ InfoExchange.Refused ⟨fetch.withoutHeaders, answer⟩ := by
  simp [InfoExchange.Refused, withoutHeaders]

/-- A refused fetch moves the session and asks again without headers. Only the first refusal of a
session is reported. -/
theorem answer_of_refused {fetch : InfoFetch} {answer : Except ApiError MessageInfo}
    (h : InfoExchange.Refused ⟨fetch, answer⟩) (session : FetchScope) :
    fetch.answer session answer =
      { session := .headersExcluded
        next := .again fetch.withoutHeaders
        events :=
          (if session = .headersIncluded then [.reported (.headersRefused fetch.id)] else []) ++
            fetch.withoutHeaders.events } := by
  obtain ⟨hscope, rfl⟩ : fetch.scope = .headersIncluded ∧ answer = .error (.authorization 403) := h
  have hr := (fetch.isRefusal_iff (.authorization 403)).mpr ⟨hscope, rfl⟩
  simp [InfoFetch.answer, hr]

theorem answer_of_not_refused {fetch : InfoFetch} {answer : Except ApiError MessageInfo}
    (h : ¬ InfoExchange.Refused ⟨fetch, answer⟩) (session : FetchScope) :
    fetch.answer session answer =
      ⟨session, .done (InfoExchange.result ⟨fetch, answer⟩), []⟩ := by
  cases answer with
  | ok info => rfl
  | error e =>
    have hr : ¬ fetch.isRefusal e = true := fun hr => h ((fetch.isRefusal_iff e).mp hr)
    simp [InfoFetch.answer, hr, InfoExchange.result, Except.map]

/-- How far a fetch has come: the exchanges behind it, and what comes next. -/
inductive Course (first : InfoFetch) : List InfoExchange → InfoFetchNext → Prop
  | asked : Course first [] (.again first)
  | answered {answer} (final : ¬ InfoExchange.Refused ⟨first, answer⟩) :
      Course first [⟨first, answer⟩] (.done (InfoExchange.result ⟨first, answer⟩))
  | refused {answer} (refused : InfoExchange.Refused ⟨first, answer⟩) :
      Course first [⟨first, answer⟩] (.again first.withoutHeaders)
  | retried {answer retried} (refused : InfoExchange.Refused ⟨first, answer⟩) :
      Course first [⟨first, answer⟩, ⟨first.withoutHeaders, retried⟩]
        (.done (InfoExchange.result ⟨first.withoutHeaders, retried⟩))

/-- An answer takes a fetch further on its course, whatever the scope of the session has become. -/
theorem Course.answer {first fetch : InfoFetch} {xs : List InfoExchange}
    (h : Course first xs (.again fetch)) (session : FetchScope)
    (answer : Except ApiError MessageInfo) :
    Course first (xs ++ [⟨fetch, answer⟩]) (fetch.answer session answer).next := by
  cases h with
  | asked =>
    by_cases hr : InfoExchange.Refused ⟨first, answer⟩
    · rw [answer_of_refused hr]
      exact .refused hr
    · rw [answer_of_not_refused hr]
      exact .answered hr
  | refused hr =>
    rw [answer_of_not_refused (first.withoutHeaders_not_refused answer)]
    exact .retried hr

end InfoFetch

def InfoFetchNext.pending : InfoFetchNext → List Call
  | .again fetch => [fetch.call]
  | .done _ => []

def Event.calls (events : List Event) : List Call := events.filterMap Event.call?

theorem InfoFetch.Course.calls_for {first : InfoFetch} {xs : List InfoExchange}
    {next : InfoFetchNext} (h : Course first xs next) :
    ∀ call ∈ xs.map (·.fetch.call) ++ next.pending,
      ∃ headers, call = .info first.object ⟨first.id, headers⟩ := by
  cases h with
  | asked | answered final =>
    intro call hcall
    obtain rfl := List.mem_singleton.mp hcall
    exact ⟨first.scope.includesHeaders, rfl⟩
  | refused refused | retried refused =>
    intro call hcall
    rcases List.mem_cons.mp hcall with rfl | hcall
    · exact ⟨first.scope.includesHeaders, rfl⟩
    · obtain rfl := List.mem_singleton.mp hcall
      exact ⟨false, rfl⟩

theorem InfoFetch.calls_events (fetch : InfoFetch) : Event.calls fetch.events = [fetch.call] := rfl

theorem InfoFetch.calls_answer (fetch : InfoFetch) (session : FetchScope)
    (answer : Except ApiError MessageInfo) :
    Event.calls (fetch.answer session answer).events =
      (fetch.answer session answer).next.pending := by
  by_cases hr : InfoExchange.Refused ⟨fetch, answer⟩
  · rw [answer_of_refused hr]
    split <;> rfl
  · rw [answer_of_not_refused hr]
    rfl

end MessageInspector
