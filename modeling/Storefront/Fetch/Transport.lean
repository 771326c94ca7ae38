import Storefront.Failure
import Storefront.Table

/-! # Transports

A transport takes a request for an address and has an answer to it some milliseconds later.
-/
namespace Storefront

inductive Answer
  | page (status : Nat) (body : String)
  | problem (problem : DownloadProblem)
deriving DecidableEq

structure Reply where
  answer : Answer
  wait : Nat := 0
deriving DecidableEq

inductive Verdict
  | found (body : String)
  | missing
  | failed (problem : DownloadProblem)
deriving DecidableEq

def Answer.verdict : Answer → Verdict
  | problem p => .failed p
  | page status body =>
    if status = 404 then .missing
    else if 200 ≤ status ∧ status < 300 then
      if body.isEmpty then .failed .emptyPage else .found body
    else .failed (.status status)

/-- What answers requests: for an address and an instant, the reply and the state after it. -/
structure Transport (ν : Type) where
  send : String → Nat → ν → Reply × ν

def Transport.offline : Transport Unit where
  send _ _ _ := (⟨.problem (.request "no network"), 0⟩, ())

/-- A list of answers prepared beforehand. They are given one by one, the last of them for ever. -/
def takePrepared {α : Type} : List α → Option (α × List α)
  | [] => none
  | [a] => some (a, [a])
  | a :: rest => some (a, rest)

/-- Answers prepared for addresses, and the requests so far with their instants. -/
structure Script where
  replies : Table String (List Reply)
  others : List Reply := []
  requests : List (String × Nat) := []

namespace Script

def noReply : Reply := ⟨.problem (.request "no scripted response"), 0⟩

def reply (s : Script) (url : String) : Reply × Script :=
  match s.replies.get? url with
  | some list => match takePrepared list with
    | some (r, list) => (r, { s with replies := s.replies.insert url list })
    | none => (noReply, s)
  | none => match takePrepared s.others with
    | some (r, list) => (r, { s with others := list })
    | none => (noReply, s)

def transport : Transport Script where
  send url now s := { s with requests := s.requests ++ [(url, now)] }.reply url

end Script
end Storefront
