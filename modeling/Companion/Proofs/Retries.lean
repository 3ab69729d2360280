import Companion.Model.Client
import Mathlib.Data.Nat.Find

/-!
Requests that are sent again. A network that answers from a script shows what a client does: it sends
the same request again and again, until an answer tells success or there are no retries left. A success
ends it whether its body can be read or not, and nothing else does before. What is reported in the end
is the last answer, and how often the request was tried, in 32 bits: with the greatest number of
retries that count starts again at zero. A request that cannot even be built is tried as often, though
nothing is sent. Which requests can be built, with what addresses and what keys, is left open here.
-/

namespace Companion

open Text Json

def Answer.isSuccess : Answer → Bool
  | .response status _ => Status.isSuccess status
  | .failed _ => false

/-- A network that answers from a script, and keeps what it was sent. What cannot be built is not sent
to it. -/
def scripted (fault? : Request → Option String) (script : Nat → Answer) (request : Request)
    (sent : List Request) : Answer × List Request :=
  match fault? request with
  | none => (script sent.length, sent ++ [request])
  | some fault => (.failed fault, sent)

namespace Client

/-- What is told of an answer that is no success: its status and the text of its body, if that did not
break off. -/
inductive Complains : Answer → String → Prop
  | response (status : Nat) (body : Body) :
      Complains (.response status (.ok body)) ("HTTP " ++ Status.describe status ++ ": " ++ body.text)
  | broken (status : Nat) (reason : String) :
      Complains (.response status (.error reason)) ("HTTP " ++ Status.describe status ++ ": ")
  | failed (reason : String) : Complains (.failed reason) reason

theorem complains_complaint (answer : Answer) : Complains answer (complaint answer) := by
  cases answer with
  | failed reason => exact .failed reason
  | response status body =>
    cases body with
    | ok body => exact .response status body
    | error reason =>
      have hempty : complaint (.response status (.error reason)) =
          "HTTP " ++ Status.describe status ++ ": " := String.append_empty
      exact hempty ▸ .broken status reason

/-- What is made of the body of a success: its value, or a complaint if it is no JSON or broke off. -/
inductive Reads : Except String Body → Except ModelError Value → Prop
  | parsed {body : Body} {v : Value} (hparse : parseOctets body.octets = .ok v) :
      Reads (.ok body) (.ok v)
  | garbled {body : Body} {f : Fault} (hparse : parseOctets body.octets = .error f) :
      Reads (.ok body) (.error (.unexpectedReply "error decoding response body"))
  | broken (reason : String) : Reads (.error reason) (.error (.unexpectedReply reason))

theorem reads_readBody (body : Except String Body) : Reads body (readBody body) := by
  cases body with
  | error reason => exact .broken reason
  | ok body =>
    rw [readBody]
    cases hparse : parseOctets body.octets with
    | ok v => exact .parsed hparse
    | error f => exact .garbled hparse

/-- How a request that may be sent again ends, and what was sent until then: with the first answer that
tells success, if it comes within the retries, or with a complaint about the last answer. -/
inductive Ends (script : Nat → Answer) (maxRetries : UInt32) (request : Request) :
    Except ModelError Value × List Request → Prop
  | succeeded {n status : Nat} {body : Except String Body} {result : Except ModelError Value}
      (hwithin : n ≤ maxRetries.toNat) (hearlier : ∀ k < n, (script k).isSuccess = false)
      (hanswer : script n = .response status body) (hsuccess : Status.isSuccess status = true)
      (hread : Reads body result) :
      Ends script maxRetries request (result, List.replicate (n + 1) request)
  | exhausted {last : String} (hnone : ∀ k ≤ maxRetries.toNat, (script k).isSuccess = false)
      (hlast : Complains (script maxRetries.toNat) last) :
      Ends script maxRetries request (.error (.retriesExhausted (maxRetries + 1) last),
        List.replicate (maxRetries.toNat + 1) request)

section Post

variable {fault? : Request → Option String} {script : Nat → Answer} {request : Request}
  {sent : List Request} {n : Nat} {last : String}

theorem scripted_built (hbuilt : fault? request = .none) :
    scripted fault? script request sent = (script sent.length, sent ++ [request]) := by
  rw [scripted, hbuilt]

/-- An answer that is no success is followed by the same request, as long as one is left. -/
theorem post_again (hbuilt : fault? request = .none) (h : (script sent.length).isSuccess = false) :
    post (scripted fault? script) request (n + 1) last sent =
      post (scripted fault? script) request n (complaint (script sent.length))
        (sent ++ [request]) := by
  rw [post, scripted_built hbuilt]
  cases hanswer : script sent.length with
  | response status body =>
    rw [hanswer] at h
    exact if_neg (Bool.eq_false_iff.mp h)
  | failed reason => rfl

/-- A success is the last answer. -/
theorem post_success (hbuilt : fault? request = .none) {status : Nat} {body : Except String Body}
    (h : script sent.length = .response status body) (hsuccess : Status.isSuccess status = true) :
    post (scripted fault? script) request (n + 1) last sent =
      (.ok (readBody body), sent ++ [request]) := by
  rw [post, scripted_built hbuilt, h]
  exact if_pos hsuccess

/-- Requests are sent as long as no answer is a success. -/
theorem post_failing (hbuilt : fault? request = .none) (last : String) {m : Nat} (hm : m ≤ n)
    (h : ∀ k < m, (script k).isSuccess = false) : ∃ last',
    post (scripted fault? script) request n last [] =
      post (scripted fault? script) request (n - m) last' (List.replicate m request) ∧
    (m = 0 ∨ last' = complaint (script (m - 1))) := by
  induction m with
  | zero => exact ⟨last, rfl, .inl rfl⟩
  | succ m ih =>
    obtain ⟨last', hpost, -⟩ := ih (by omega) fun k hk => h k (by omega)
    have hleft : n - m = n - (m + 1) + 1 := by omega
    have hplace : (List.replicate m request).length = m := List.length_replicate
    refine ⟨_, ?_, .inr (congrArg (fun i => complaint (script i)) hplace)⟩
    rw [hpost, hleft, post_again hbuilt (hplace.symm ▸ h m (Nat.lt_succ_self m)),
      ← List.replicate_succ']

/-- A request that cannot be built is never sent, and the same is told each time it is tried. -/
theorem post_not_built {fault : String} (hfault : fault? request = some fault) :
    post (scripted fault? script) request (n + 1) last sent = (.error fault, sent) := by
  have hunsent : scripted fault? script request sent = (.failed fault, sent) := by
    rw [scripted, hfault]
  induction n generalizing last with
  | zero =>
    rw [post, hunsent]
    rfl
  | succ n ih =>
    rw [post, hunsent]
    exact ih

end Post

/-- The first success within a bound, if there is one. -/
theorem first_success (script : Nat → Answer) (bound : Nat) :
    (∀ k ≤ bound, (script k).isSuccess = false) ∨
      ∃ n ≤ bound, (∀ k < n, (script k).isSuccess = false) ∧ (script n).isSuccess = true := by
  by_cases hany : ∃ n, n ≤ bound ∧ (script n).isSuccess = true
  · obtain ⟨hwithin, hsuccess⟩ := Nat.find_spec hany
    refine .inr ⟨Nat.find hany, hwithin, fun k hk => ?_, hsuccess⟩
    have hnot := Nat.find_min hany hk
    rw [not_and] at hnot
    exact Bool.eq_false_iff.mpr (hnot (Nat.le_of_lt (Nat.lt_of_lt_of_le hk hwithin)))
  · rw [not_exists] at hany
    exact .inl fun k hk => Bool.eq_false_iff.mpr fun hsuccess => hany k ⟨hk, hsuccess⟩

theorem postWithRetries_ends {fault? : Request → Option String} (script : Nat → Answer)
    (maxRetries : UInt32) {request : Request} (hbuilt : fault? request = .none) :
    Ends script maxRetries request
      (postWithRetries (scripted fault? script) maxRetries request []) := by
  rw [postWithRetries]
  rcases first_success script maxRetries.toNat with hnone | ⟨n, hwithin, hearlier, hsuccess⟩
  · obtain ⟨last, hpost, hlast⟩ := post_failing hbuilt "" (Nat.le_refl (maxRetries.toNat + 1))
      fun k hk => hnone k (Nat.le_of_lt_succ hk)
    obtain rfl := hlast.resolve_left (Nat.succ_ne_zero _)
    rw [hpost, Nat.sub_self, post]
    exact .exhausted hnone (complains_complaint _)
  · obtain ⟨last, hpost, -⟩ := post_failing hbuilt "" (Nat.le_succ_of_le hwithin) hearlier
    cases hanswer : script n with
    | failed reason =>
      rw [hanswer] at hsuccess
      cases hsuccess
    | response status body =>
      rw [hanswer] at hsuccess
      have hplace : script (List.replicate n request).length = .response status body := by
        rw [List.length_replicate, hanswer]
      rw [hpost, Nat.succ_sub hwithin, post_success hbuilt hplace hsuccess, ← List.replicate_succ']
      exact .succeeded hwithin hearlier hanswer hsuccess (reads_readBody body)

/-- A request that cannot be built is given up after as many attempts as any other, and none of them
was sent. -/
theorem postWithRetries_not_built {fault? : Request → Option String} (script : Nat → Answer)
    (maxRetries : UInt32) {request : Request} {fault : String} (hfault : fault? request = some fault) :
    postWithRetries (scripted fault? script) maxRetries request [] =
      (.error (.retriesExhausted (maxRetries + 1) fault), []) := by
  rw [postWithRetries, post_not_built hfault]

/-- A complaint about the last answer comes after one request more than there are retries, and tells
that number in 32 bits. -/
theorem Ends.attempts {script : Nat → Answer} {maxRetries : UInt32} {request : Request}
    {outcome : Except ModelError Value × List Request} (h : Ends script maxRetries request outcome)
    {attempts : UInt32} {last : String} (hanswer : outcome.1 = .error (.retriesExhausted attempts last)) :
    attempts = maxRetries + 1 ∧ outcome.2.length = maxRetries.toNat + 1 := by
  cases h with
  | succeeded _ _ _ _ hread => cases hread <;> cases hanswer
  | exhausted hnone hlast =>
    obtain ⟨rfl, -⟩ := ModelError.retriesExhausted.inj (Except.error.inj hanswer)
    exact ⟨rfl, List.length_replicate⟩

/-- A request that is sent to a script ends with the first success within the retries, which is read or
found to be no JSON, after as many requests as it took; and where there is none, with a complaint about
the last answer, after one request more than there are retries. The number of attempts that is then
told is the number of requests that were sent, unless there are as many retries as 32 bits can tell:
one request more is told as zero. Of a request that cannot be built as many attempts are told, and none
is sent. -/
theorem postWithRetries_attempts (fault? : Request → Option String) (script : Nat → Answer)
    (maxRetries : UInt32) (request : Request) :
    let outcome := postWithRetries (scripted fault? script) maxRetries request []
    (fault? request = .none → Ends script maxRetries request outcome ∧
      ∀ attempts last, outcome.1 = .error (.retriesExhausted attempts last) →
        (maxRetries ≠ 0xFFFFFFFF → attempts.toNat = outcome.2.length) ∧
        (maxRetries = 0xFFFFFFFF → attempts = 0 ∧ outcome.2.length = UInt32.size)) ∧
    ∀ fault, fault? request = some fault →
      outcome = (.error (.retriesExhausted (maxRetries + 1) fault), []) := by
  refine ⟨fun hbuilt => ?_, fun fault => postWithRetries_not_built script maxRetries⟩
  have hends := postWithRetries_ends script maxRetries hbuilt
  refine ⟨hends, fun attempts last hanswer => ?_⟩
  obtain ⟨rfl, hlength⟩ := hends.attempts hanswer
  constructor
  · intro hbelow
    have hne : maxRetries.toNat ≠ 0xFFFFFFFF := fun h => hbelow (UInt32.toNat_inj.mp h)
    have hlt := maxRetries.toNat_lt
    rw [hlength, UInt32.toNat_add]
    exact Nat.mod_eq_of_lt (by simp; omega)
  · rintro rfl
    exact ⟨rfl, hlength⟩

def sampleRequest : Request := ⟨"http://localhost/api/chat", .none, .object []⟩

def plainBody (text : String) : Except String Body := .ok ⟨utf8 text.toList, text⟩

/-- A server that is busy, then cannot be reached, and then fails for good. -/
def troubled : Nat → Answer
  | 0 => .response 503 (plainBody "busy")
  | 1 => .failed "operation timed out"
  | _ => .response 500 (plainBody "out of memory")

/-- The server that fails for good is given up after two retries, and complained about. -/
theorem postWithRetries_attempts_troubled :
    sampleRequest.keyFault? = .none ∧
    let outcome := postWithRetries (scripted Request.keyFault? troubled) 2 sampleRequest []
    outcome.1 = .error (.retriesExhausted 3 "HTTP 500 Internal Server Error: out of memory") ∧
      (3 : UInt32).toNat = outcome.2.length := by
  have hbuilt : sampleRequest.keyFault? = .none := rfl
  have hanswer : (postWithRetries (scripted Request.keyFault? troubled) 2 sampleRequest []).1 =
      .error (.retriesExhausted 3 "HTTP 500 Internal Server Error: out of memory") := by
    rfl
  obtain ⟨-, hattempts⟩ :=
    (postWithRetries_attempts Request.keyFault? troubled 2 sampleRequest).1 hbuilt
  exact ⟨hbuilt, hanswer, (hattempts 3 _ hanswer).1 (by decide)⟩

def twoLineRequest : Request :=
  ⟨"http://localhost/v1/chat/completions", some "sk\nsk", .object []⟩

/-- With the greatest number of retries, a network that is never there is tried as often as 32 bits
cannot tell, and no attempt is reported. A key that no request can carry is reported as one attempt,
though nothing is sent. -/
theorem attempts_start_again :
    (postWithRetries (scripted Request.keyFault? fun _ => .failed "no route to host") 0xFFFFFFFF
        sampleRequest []).1 = .error (.retriesExhausted 0 "no route to host") ∧
    postWithRetries (scripted Request.keyFault? troubled) 0 twoLineRequest [] =
      (.error (.retriesExhausted 1 "builder error"), []) ∧
    ¬ ∀ (script : Nat → Answer) (maxRetries : UInt32) (request : Request) (attempts : UInt32)
      (last : String),
      let outcome := postWithRetries (scripted Request.keyFault? script) maxRetries request []
      request.keyFault? = .none → outcome.1 = .error (.retriesExhausted attempts last) →
        attempts.toNat = outcome.2.length := by
  have hbuilt : sampleRequest.keyFault? = .none := rfl
  have hends := postWithRetries_ends (fun _ => .failed "no route to host") 0xFFFFFFFF hbuilt
  generalize hsame : postWithRetries (scripted Request.keyFault? fun _ => .failed "no route to host")
    0xFFFFFFFF sampleRequest [] = outcome at hends
  have hanswer : outcome.1 = .error (.retriesExhausted 0 "no route to host") := by
    cases hends with
    | succeeded _ _ hresponse => cases hresponse
    | exhausted _ hlast =>
      cases hlast
      rfl
  have hunbuilt : twoLineRequest.keyFault? = some "builder error" := rfl
  refine ⟨hanswer, postWithRetries_not_built troubled 0 hunbuilt, fun hall => ?_⟩
  have hcount := hall _ 0xFFFFFFFF sampleRequest 0 "no route to host" hbuilt (hsame ▸ hanswer)
  rw [hsame, (hends.attempts hanswer).2] at hcount
  cases hcount

end Client

end Companion
