import DashboardExport.Proofs.Decoding.Rejections
import DashboardExport.Service.Client
import Mathlib.Control.Monad.Basic

/-!
# What becomes of an answer

Whatever comes back for a request, the one who asked gets the object or a failure that says
why there is none (`Answered`): the object is missing, the status is not one of success,
the connection broke, the body is no JSON, it does not fit the object, or a parameter in it
has an unknown type.  All of these end an export in good order.

In the model there is one way out of this order: a query whose parameters are not foreseen
(`Query.Unforeseen`) ends the program, and nothing else that a service answers does
(`fetch_answered`).

An id that makes no address and a request that the transport does not take are left out
here: they are no answers.  What would end the program from outside is not modelled: a
signal, no more memory, and a body nested so deep that the interpreter gives up.
-/

set_option autoImplicit false

namespace DashboardExport

open Decoding

/-- Whether a refusal says that a payload does not match the object model. -/
def Refusal.isMismatch : Refusal → Bool
  | .undecodable .. => true
  | .parameterNotObject _ => true
  | _ => false

namespace Service

/-- What the one who asks for an object gets for a reply.  Which values have a parameter of an
unknown type, and which go unforeseen, depends on the object. -/
inductive Answered {α : Type} (kind : RemoteKind) (id : String) (decode : Json → Outcome α)
    (hasUnknownType : Json → Json → Prop) (isUnforeseen : Json → Prop) :
    Reply → Except Failure α → Prop where
  | decoded {status : Nat} {body : List UInt8} {value : Json} {result : α}
      (success : Client.isSuccess status = true) (reads : Json.ofDocument body = .ok value)
      (foreseen : ¬isUnforeseen value) (fits : decode value = .value result) :
      Answered kind id decode hasUnknownType isUnforeseen (.response status body) (.ok result)
  | notFound {body : List UInt8} :
      Answered kind id decode hasUnknownType isUnforeseen (.response 404 body)
        (.error (.service (.notFound kind id)))
  | badStatus {status : Nat} {body : List UInt8} {text : String}
      (noSuccess : Client.isSuccess status = false) (other : status ≠ 404) :
      Answered kind id decode hasUnknownType isUnforeseen (.response status body)
        (.error (.service (.badStatus kind id status text)))
  | broken {reason : String} :
      Answered kind id decode hasUnknownType isUnforeseen (.broken reason)
        (.error (.service (.broken kind id reason)))
  /-- The body is no JSON document. -/
  | unreadable {status : Nat} {body : List UInt8} {fault : Json.DocumentError} {defect : Defect}
      (success : Client.isSuccess status = true) (noJson : Json.ofDocument body = .error fault) :
      Answered kind id decode hasUnknownType isUnforeseen (.response status body)
        (.error (.refused (.undecodable (.answer kind id) defect)))
  | mismatch {status : Nat} {body : List UInt8} {value : Json} {refusal : Refusal}
      (success : Client.isSuccess status = true) (reads : Json.ofDocument body = .ok value)
      (foreseen : ¬isUnforeseen value) (known : ∀ type, ¬hasUnknownType value type)
      (noObject : ∀ result, decode value ≠ .value result) (told : refusal.isMismatch = true) :
      Answered kind id decode hasUnknownType isUnforeseen (.response status body)
        (.error (.refused refusal))
  | unknownType {status : Nat} {body : List UInt8} {value type : Json}
      (success : Client.isSuccess status = true) (reads : Json.ofDocument body = .ok value)
      (foreseen : ¬isUnforeseen value) (unknown : hasUnknownType value type) :
      Answered kind id decode hasUnknownType isUnforeseen (.response status body)
        (.error (.refused (.unknownParameterType type)))
  /-- The one failure that is not reported. -/
  | escaped {status : Nat} {body : List UInt8} {value : Json} {refusal : Refusal}
      (success : Client.isSuccess status = true) (reads : Json.ofDocument body = .ok value)
      (unforeseen : isUnforeseen value) (unreported : refusal.reported = false) :
      Answered kind id decode hasUnknownType isUnforeseen (.response status body)
        (.error (.refused refusal))

section Replies

variable {α : Type} {kind : RemoteKind} {id : String} {decode : Json → Outcome α}
  {hasUnknownType : Json → Json → Prop} {isUnforeseen : Json → Prop}
  (unknowns : ∀ value type,
    hasUnknownType value type ↔ decode value = .rejected (.unknownParameterType type))
  (escapes : ∀ value, isUnforeseen value ↔ ∃ rejection, decode value = .rejected rejection ∧
    (Refusal.ofRejection rejection).reported = false)
include unknowns escapes

/-- A body that is read to a value gives the object, or it is refused in one of three ways. -/
theorem answered_value {status : Nat} {body : List UInt8} {value : Json}
    (success : Client.isSuccess status = true) (reads : Json.ofDocument body = .ok value) :
    Answered kind id decode hasUnknownType isUnforeseen (.response status body)
      ((Refusal.ofOutcome (.answer kind id) (decode value)).mapError .refused) := by
  have foreseen (reported : ∀ rejection, decode value = .rejected rejection →
      (Refusal.ofRejection rejection).reported = true) : ¬isUnforeseen value := by
    intro unforeseen
    obtain ⟨rejection, here, unreported⟩ := (escapes value).1 unforeseen
    rw [reported rejection here] at unreported
    cases unreported
  have known (other : ∀ type, decode value ≠ .rejected (.unknownParameterType type)) (type : Json) :
      ¬hasUnknownType value type := fun unknown => other type ((unknowns value type).1 unknown)
  cases here : decode value with
  | value result => exact .decoded success reads (foreseen (by simp [here])) here
  | invalid issues =>
      exact .mismatch success reads (foreseen (by simp [here])) (known (by simp [here]))
        (by simp [here]) rfl
  | rejected rejection =>
      have reported (same : (Refusal.ofRejection rejection).reported = true) :
          ¬isUnforeseen value :=
        foreseen fun other there => by rwa [← Outcome.rejected.inj (here.symm.trans there)]
      cases rejection with
      | unknownParameterType type =>
          exact .unknownType success reads (reported rfl) ((unknowns value type).2 here)
      | parameterNotObject name =>
          exact .mismatch success reads (reported rfl) (known (by simp [here])) (by simp [here]) rfl
      | invalidParameter discriminant name issues =>
          exact .mismatch success reads (reported rfl) (known (by simp [here])) (by simp [here]) rfl
      | notIterable name => exact .escaped success reads ((escapes value).2 ⟨_, here, rfl⟩) rfl
      | unusableDiscriminant name =>
          exact .escaped success reads ((escapes value).2 ⟨_, here, rfl⟩) rfl

/-- **Every reply is answered**, whatever the status and the body, when the transport takes the
request. -/
theorem answered_readReply {reply : Reply} (taken : ∀ message, reply ≠ .refused message) :
    Answered kind id decode hasUnknownType isUnforeseen reply
      (Client.readReply kind id decode reply) := by
  cases reply with
  | refused message => exact absurd rfl (taken message)
  | broken reason => exact .broken
  | response status body =>
      rw [Client.readReply]
      by_cases success : Client.isSuccess status = true
      · rw [if_pos success, Client.decodeBody]
        cases reads : Json.ofDocument body with
        | error fault =>
            cases fault with
            | encoding => exact .unreadable success reads
            | syntactic => exact .unreadable success reads
        | ok value => exact answered_value unknowns escapes success reads
      · rw [if_neg success]
        by_cases missing : status = 404
        · rw [if_pos missing, missing]
          exact .notFound
        · rw [if_neg missing]
          exact .badStatus (Bool.eq_false_iff.2 success) missing

theorem fetch_answered {client : Client} {request : Request}
    (asked : client.request kind id = .ok request)
    (taken : ∀ message, client.transport request ≠ .refused message) :
    Answered kind id decode hasUnknownType isUnforeseen (client.transport request)
      (client.fetch kind decode id).result := by
  rw [Client.fetch, asked]
  exact answered_readReply unknowns escapes taken

end Replies

/-- **What a service answers is decoded or reported, unless it is an unforeseen query.**  For every
request that can be made and that the transport takes, whatever comes back for it, the one who
asked gets the object or one of the failures of `Answered`, which are all that the model has.  For
dashboards all of these end an export in good order. -/
theorem fetch_answers (client : Client) (id : String) :
    (∀ request, client.request .dashboard id = .ok request →
      (∀ message, client.transport request ≠ .refused message) →
      Answered .dashboard id Dashboard.decode (fun _ _ => False) (fun _ => False)
        (client.transport request) (client.fetcher.dashboard id).result) ∧
    (∀ request, client.request .query id = .ok request →
      (∀ message, client.transport request ≠ .refused message) →
      Answered .query id Query.decode Query.HasUnknownType Query.Unforeseen
        (client.transport request) (client.fetcher.query id).result) := by
  constructor
  · intro request asked taken
    have accepted (value : Json) (rejection : Rejection) :
        Dashboard.decode value ≠ .rejected rejection := by
      rw [Ne, ← Outcome.rejection?_eq_some_iff, Dashboard.rejection?_decode]
      nofun
    refine fetch_answered (fun value type => ?_) (fun value => ?_) asked taken
    · exact (iff_false_right (accepted value _)).2 not_false
    · simp [accepted]
  · intro request asked taken
    have unknowns (value type : Json) : Query.HasUnknownType value type ↔
        Query.decode value = .rejected (.unknownParameterType type) := Query.hasUnknownType_iff
    exact fetch_answered unknowns (fun _ => Query.unforeseen_iff) asked taken

/-- A query with a number in place of its parameters. -/
def scalarBody : List UInt8 :=
  "\x7b\"id\":\"q\",\"name\":\"n\",\"options\":\x7b\"parameters\":5\x7d\x7d".toUTF8.toList

/-- A client of a service that answers every request with it. -/
def scalarClient : Client where
  base :=
    { scheme := "https".toList
      userInfo := []
      host := "h.example".toList
      port := none
      path := "/api/2.0/preview/sql/".toList
      query := none
      fragment := none }
  authorization := none
  transport _ := .response 200 scalarBody

theorem fetch_answers_scalar :
    (scalarClient.request .dashboard "q").toOption.isSome = true ∧
      (scalarClient.request .query "q").toOption.isSome = true ∧
      Answered .dashboard "q" Dashboard.decode (fun _ _ => False) (fun _ => False)
        (.response 200 scalarBody) (scalarClient.fetcher.dashboard "q").result ∧
      Answered .query "q" Query.decode Query.HasUnknownType Query.Unforeseen
        (.response 200 scalarBody) (scalarClient.fetcher.query "q").result := by
  have answers := fetch_answers scalarClient "q"
  exact ⟨by decide +kernel, by decide +kernel, answers.1 _ rfl (fun _ => nofun),
    answers.2 _ rfl (fun _ => nofun)⟩

/-- A query with a number in place of its parameters is neither decoded nor reported. -/
theorem fetch_escapes :
    baseAddress "https://h.example" = .ok scalarClient.base ∧
      (∀ request, scalarClient.transport request = .response 200 scalarBody) ∧
      ∃ failure, (scalarClient.fetcher.query "q").result = .error failure ∧
        failure = .refused (.parametersNotIterable "int") ∧ failure.reported = false :=
  ⟨by decide +kernel, fun _ => rfl, _, by decide +kernel, rfl, rfl⟩

end Service

end DashboardExport
