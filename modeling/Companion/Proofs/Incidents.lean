import Companion.Proofs.Durability
import Companion.Proofs.Interchange

/-!
Runs of all that can happen to an agent: its callers act, its store is asked anything, its slots are
meddled with, and time goes by. A caller asks the model one question at most, and it asks it last, so
its outcome is told once.
-/

namespace Companion

open Number Time

/-! ### Callers that reply last -/

/-- What there is to change for the job under way is changed. -/
def Stage.isDone : Stage → Bool
  | .changed _ _ => true
  | .saved _ => true
  | _ => false

/-- A caller replies in its last job, asks only about the event that it replies to, and has no outcome
to tell before the reply is done. -/
structure Caller.Orderly (c : Caller) : Prop where
  last : c.errand.jobs.Pairwise fun job _ => ∀ event, job ≠ .reply event
  asks : ∀ {ticket draft}, c.errand.stage = .asking ticket draft →
    c.errand.jobs = [.reply draft.event]
  untold : ∀ {event}, .reply event ∈ c.errand.jobs →
    c.errand.outcome = {} ∨ (c.errand.jobs = [.reply event] ∧ c.errand.stage.isDone = true)

namespace Caller.Orderly

variable {c : Caller}

/-- A reply under way is the only job that is left. -/
theorem alone (h : c.Orderly) {event : Event} {rest : List Job}
    (hjobs : c.errand.jobs = .reply event :: rest) : rest = [] := by
  have hlast := h.last
  rw [hjobs] at hlast
  cases rest with
  | nil => rfl
  | cons job rest => exact absurd rfl ((List.pairwise_cons.mp hlast).1 job List.mem_cons_self event)

/-- Before the reply is done, a caller that is to reply has no outcome. -/
theorem outcome_eq (h : c.Orderly) {event : Event} (hmem : .reply event ∈ c.errand.jobs)
    (hstage : c.errand.stage.isDone = false) : c.errand.outcome = {} := by
  rcases h.untold hmem with hnone | ⟨_, hdone⟩
  · exact hnone
  · rw [hstage] at hdone
    cases hdone

/-- A caller that goes on to a stage that does not ask, and is still done if it was, stays in order. -/
theorem moved (h : c.Orderly) {stage : Stage} {given : Option Given}
    (hdone : c.errand.stage.isDone = true → stage.isDone = true)
    (hstage : ∀ ticket draft, stage ≠ .asking ticket draft) :
    Caller.Orderly ⟨{ c.errand with stage }, given⟩ where
  last := h.last
  asks := fun heq => absurd heq (hstage _ _)
  untold := fun hmem => (h.untold hmem).imp id fun ⟨hjobs, hold⟩ => ⟨hjobs, hdone hold⟩

variable {σ : Type} [Backend σ] {now : Instant} {i : Nat} {a b : Agent σ} {c' : Caller}
  {entries : List Entry}

/-- Every step of a caller keeps it in order. -/
theorem step (h : c.Orderly) (hstep : c.Steps now i a c' b entries) : c'.Orderly := by
  cases hstep with
  | requests hjobs hstage => exact h.moved (by rw [hstage]; nofun) (by simp)
  | notices hjobs hstage hheld => exact h.moved (by rw [hstage]; nofun) (by simp)
  | saves hjobs hstage => exact h.moved (fun _ => rfl) (by simp)
  | @loads job rest ticket hjobs hstage =>
    have hnew : c.errand.stage.isDone = true → (Errand.start now ticket job a).1.isDone = true := by
      rw [hstage]
      nofun
    cases job with
    | reply event =>
      obtain rfl := h.alone hjobs
      refine ⟨h.last, fun hasks => ?_, fun hmem => ?_⟩
      · cases hasks
        exact hjobs
      · exact .inl (h.outcome_eq hmem (by rw [hstage]; rfl))
    | _ => exact h.moved hnew (by simp [Errand.start])
  | @finishes job rest ticket hjobs hstage =>
    have hlast := h.last
    rw [hjobs] at hlast
    refine ⟨(List.pairwise_cons.mp hlast).2, by simp, fun {event} hmem => .inl ?_⟩
    rcases h.untold (hjobs ▸ List.mem_cons_of_mem job hmem) with hnone | ⟨halone, _⟩
    · exact hnone
    · obtain ⟨_, rfl⟩ := List.cons.inj (hjobs.symm.trans halone)
      cases hmem

/-- A caller that gets its answer is in order. -/
theorem answered (h : c.Orderly) {ticket : Nat} {draft : Draft}
    (hstage : c.errand.stage = .asking ticket draft) (unsaved : Unsaved) (outcome : Outcome)
    (given : Option Given) :
    Caller.Orderly ⟨{ c.errand with stage := .changed ticket unsaved, outcome }, given⟩ where
  last := h.last
  asks := nofun
  untold := by
    intro event hmem
    have hjobs := h.asks hstage
    obtain heq : .reply event = Job.reply draft.event := List.mem_singleton.mp (hjobs ▸ hmem)
    exact .inr ⟨hjobs.trans (by rw [heq]), rfl⟩

end Caller.Orderly

/-! ### Runs -/

namespace World

/-- All that can happen: an act of a run of calls, anything that the store is asked or that is done to
its slots past it, or a wait. -/
inductive Incident
  | act (x : Act)
  | ask (inquiry : Inquiry)
  | wait (millis : Nat)

variable {σ : Type} [Backend σ]

def meet (now : Instant) (w : World σ) : Incident → World σ
  | .act x => w.act now x
  | .ask inquiry =>
    { w with agent := { w.agent with store := (inquiry.run now w.agent.store).2 } }
  | .wait millis => { w with agent := (w.agent.advance millis).2 }

def question? (w : World σ) (i : Nat) : Option Draft := (w.callers[i]?).bind (·.errand.question?)

omit [Backend σ] in
/-- An answer that nobody waits for changes nothing. -/
theorem answer_unasked {w : World σ} {i : Nat} (hnone : w.question? i = none) (now : Instant)
    (generated : Except TurnError String) : w.answer now i generated = w := by
  unfold question? at hnone
  unfold answer
  cases hc : w.callers[i]? with
  | none => rfl
  | some c =>
    rw [hc, Option.bind_some] at hnone
    simp [hnone]

omit [Backend σ] in
/-- What an answer does that a caller waits for. -/
theorem answer_asked {w : World σ} {i : Nat} {draft : Draft} (hasks : w.question? i = some draft)
    (now : Instant) (generated : Except TurnError String) :
    ∃ c ticket, w.callers[i]? = some c ∧ c.errand.stage = .asking ticket draft ∧
      w.answer now i generated = { w with
        agent := (w.agent.finishReply now draft generated).2
        callers := w.callers.set i
          ⟨{ c.errand with
              stage := .changed ticket (.ofUser (w.agent.finishReply now draft generated).1.1)
              outcome := (w.agent.finishReply now draft generated).1.2 },
            c.given.map fun g => { g with answer := some (now, generated) }⟩ } := by
  obtain ⟨c, hc, hquestion⟩ := Option.bind_eq_some_iff.mp hasks
  obtain ⟨⟨jobs, stage, outcome⟩, given⟩ := c
  cases stage with
  | asking ticket d =>
    obtain rfl := Option.some.inj hquestion
    refine ⟨_, ticket, hc, rfl, ?_⟩
    simp only [answer, hc, Errand.question?, Option.isSome_some, if_true, Errand.answered]
  | _ => cases hquestion

def Orderly (w : World σ) : Prop := ∀ {i : Nat} {c : Caller}, w.callers[i]? = some c → c.Orderly

variable {w : World σ} (now : Instant)

omit [Backend σ] in
/-- A world whose callers are those of a world in order, but for one that is in order itself, is in
order. -/
theorem Orderly.set (h : w.Orderly) {i : Nat} {c' : Caller} (hc' : c'.Orderly) {w' : World σ}
    (hcallers : w'.callers = w.callers.set i c') : w'.Orderly := by
  intro j d hd
  rw [hcallers] at hd
  rcases List.mem_or_eq_of_mem_set (List.mem_of_getElem? hd) with hmem | rfl
  · obtain ⟨k, hk⟩ := List.mem_iff_getElem?.mp hmem
    exact h hk
  · exact hc'

theorem Orderly.step (h : w.Orderly) (i : Nat) : (w.step now i).Orderly := by
  rcases w.step_cases now i with hsame | ⟨c, c', a, entries, hc, hstep, hturn⟩
  · rw [hsame]
    exact h
  · rw [hturn]
    exact h.set ((h hc).step hstep) rfl

omit [Backend σ] in
theorem Orderly.answer (h : w.Orderly) (i : Nat) (generated : Except TurnError String) :
    (w.answer now i generated).Orderly := by
  rcases answer_cases now i generated w with hsame | ⟨c, ticket, draft, hc, hstage, hanswer⟩
  · rw [hsame]
    exact h
  · rw [hanswer]
    exact h.set ((h hc).answered hstage _ _ _) rfl

/-- Every incident keeps all callers in order. -/
theorem Orderly.meet (h : w.Orderly) (x : Incident) : (w.meet now x).Orderly := by
  cases x with
  | act x =>
    cases x with
    | work m =>
      cases m with
      | step i => exact h.step now i
      | answer i generated => exact h.answer now i generated
      | pass time => exact h
    | look kind id => cases kind <;> exact h
    | leave chat => exact h
  | ask inquiry => exact h
  | wait millis => exact h

end World

end Companion
