import Companion.Proofs.Locks
import Companion.Proofs.Turns

/-!
Calls side by side. A world is an agent together with all who have an errand done by it. What
happens is one move after another: an errand takes its next step, or the model answers one, or time
goes by. The world also writes down in which order locks were granted and changes were saved, which
nothing that happens depends on.

Whoever holds the lock of a record holds it alone, and what it carries was made from what lies in
the slot of the record now. This is kept by every move.
-/

namespace Companion

open Number Text Time

/-! ### Calls -/

/-- A change of records that leaves each the record of its identifier. -/
structure Mutation (R : Type) [Record R] where
  change : Instant → R → R
  keeps_id : ∀ now r, Record.id (change now r) = Record.id r

/-- What can be asked of an agent: to handle a message, to be in a group from now on, or to change a
record. -/
inductive Call
  | message (now : Instant) (event : Event)
  | added (chat : Int64) (title : String)
  | updateUser (id : Int64) (mutation : Mutation UserRecord)
  | updateGroup (id : Int64) (mutation : Mutation GroupRecord)

def Call.errand (settings : RecordSettings) : Call → Errand
  | .message now event => .ofEvent now settings event
  | .added chat title => .ofAdded chat title
  | .updateUser id mutation => { jobs := [.editUser id mutation.change] }
  | .updateGroup id mutation => { jobs := [.editGroup id mutation.change] }

theorem mem_ofEvent {now : Instant} {settings : RecordSettings} {event : Event} {job : Job}
    (h : job ∈ (Errand.ofEvent now settings event).jobs) :
    job = .editGroup event.chat (fun _ group =>
        group.pushMessage settings.groupMessageCapacity ⟨event.label, event.text, now⟩) ∨
      job = .syncName event ∨ job = .reply event := by
  rcases List.mem_append.mp h with h | h
  · split at h
    · rcases List.mem_cons.mp h with h | h
      · exact .inl h
      · split at h
        · exact .inr (.inl (List.mem_singleton.mp h))
        · exact nomatch h
    · exact nomatch h
  · split at h
    · exact .inr (.inr (List.mem_singleton.mp h))
    · exact nomatch h

theorem Call.keepsId_errand (settings : RecordSettings) (call : Call) :
    ∀ job ∈ (call.errand settings).jobs, job.KeepsId := by
  intro job hjob
  cases call with
  | message now event =>
    rcases mem_ofEvent hjob with rfl | rfl | rfl
    · exact fun _ _ => rfl
    · trivial
    · trivial
  | added chat title =>
    obtain rfl := List.mem_singleton.mp hjob
    exact fun _ _ => rfl
  | updateUser id mutation =>
    obtain rfl := List.mem_singleton.mp hjob
    exact mutation.keeps_id
  | updateGroup id mutation =>
    obtain rfl := List.mem_singleton.mp hjob
    exact mutation.keeps_id

theorem Call.stage_errand (settings : RecordSettings) (call : Call) :
    (call.errand settings).stage = .ready := by
  cases call <;> rfl

/-! ### Worlds -/

/-- One who has an errand done, and what the job under way was given so far. -/
structure Caller where
  errand : Errand
  given : Option Given := none

/-- A change that was saved: by whom, for which job, and what that job was given. -/
structure Entry where
  caller : Nat
  job : Job
  given : Given

def Entry.mutate (rules : Rules) (e : Entry) (slot : Option Octets) : Option Octets :=
  (rules.result e.given slot e.job).store slot

/-- An agent with all who have an errand done by it, the locks in the order in which they were
granted, and the changes in the order in which they were saved. -/
structure World (σ : Type) where
  agent : Agent σ
  callers : List Caller
  grants : List (Nat × Job) := []
  journal : List Entry := []

def Stage.ticket? : Stage → Option Nat
  | .ready => none
  | .waiting t => some t
  | .holding t => some t
  | .asking t _ => some t
  | .changed t _ => some t
  | .saved t => some t

def LockTable.hasMutex (t : LockTable) (ticket : Nat) : Bool :=
  (t.claim? ticket).any (·.stage.hasMutex)

namespace Caller

/-- The job for which the caller was granted a lock that it has not given back. -/
def granted? (locks : LockTable) (c : Caller) : Option Job :=
  match c.errand.jobs, c.errand.stage.ticket? with
  | job :: _, some ticket => if locks.hasMutex ticket then some job else none
  | _, _ => none

def stepped (now : Instant) (errand : Errand) (c : Caller) : Caller :=
  match c.errand.stage with
  | .holding _ => ⟨errand, some ⟨now, none⟩⟩
  | _ => ⟨errand, c.given⟩

def entries (i : Nat) (c : Caller) : List Entry :=
  match c.errand.jobs, c.errand.stage, c.given with
  | job :: _, .changed _ _, some given => [⟨i, job, given⟩]
  | _, _, _ => []

end Caller

namespace World

variable {σ : Type}

def granted? (w : World σ) (i : Nat) : Option Job :=
  (w.callers[i]?).bind (·.granted? w.agent.locks)

/-- The locks that callers have in one world and did not have in the one before. -/
def newGrants (before after : World σ) : List (Nat × Job) :=
  (List.range after.callers.length).filterMap fun i =>
    if (before.granted? i).isSome then none else (after.granted? i).map (i, ·)

def turned (w : World σ) (i : Nat) (c : Caller) (agent : Agent σ) (entries : List Entry) :
    World σ :=
  let next : World σ :=
    { w with agent, callers := w.callers.set i c, journal := w.journal ++ entries }
  { next with grants := w.grants ++ w.newGrants next }

variable [Backend σ]

/-- The next step of the errand of a caller, unless it has to wait or is done. -/
def step (now : Instant) (i : Nat) (w : World σ) : World σ :=
  match w.callers[i]? with
  | some c =>
    match c.errand.step? now w.agent with
    | some (errand, agent) => w.turned i (c.stepped now errand) agent (c.entries i)
    | none => w
  | none => w

/-- The model, or the end of patience, answers a caller that asked. -/
def answer (now : Instant) (i : Nat) (generated : Except TurnError String) (w : World σ) :
    World σ :=
  match w.callers[i]? with
  | some c =>
    if c.errand.question?.isSome then
      let (errand, agent) := c.errand.answered now generated w.agent
      let given := c.given.map fun g => { g with answer := some (now, generated) }
      { w with agent, callers := w.callers.set i ⟨errand, given⟩ }
    else w
  | none => w

inductive Move
  | step (caller : Nat)
  | answer (caller : Nat) (generated : Except TurnError String)
  | pass (time : Nat)

def move (now : Instant) (m : Move) (w : World σ) : World σ :=
  match m with
  | .step i => w.step now i
  | .answer i generated => w.answer now i generated
  | .pass time => { w with agent := (w.agent.reach time).2 }

def after (run : List (Instant × Move)) (w : World σ) : World σ :=
  run.foldl (fun w m => w.move m.1 m.2) w

def start (agent : Agent σ) (calls : List Call) : World σ :=
  ⟨agent, calls.map fun call => { errand := call.errand agent.store.settings }, [], []⟩

end World

/-! ### Steps -/

/-- All that a step of a caller can be: it asks for its lock, notices that it has it, loads the
record, saves it, or gives the lock back. -/
inductive Caller.Steps {σ : Type} [Backend σ] (now : Instant) (i : Nat) (c : Caller) (a : Agent σ) :
    Caller → Agent σ → List Entry → Prop
  | requests {job : Job} {rest : List Job} (hjobs : c.errand.jobs = job :: rest)
      (hstage : c.errand.stage = .ready) :
      Steps now i c a ⟨{ c.errand with stage := .waiting a.locks.nextTicket }, c.given⟩
        { a with locks := (a.locks.request job.key).2.poll a.locks.nextTicket } []
  | notices {job : Job} {rest : List Job} {ticket : Nat} (hjobs : c.errand.jobs = job :: rest)
      (hstage : c.errand.stage = .waiting ticket)
      (hheld : (a.locks.poll ticket).isHeld ticket = true) :
      Steps now i c a ⟨{ c.errand with stage := .holding ticket }, c.given⟩
        { a with locks := a.locks.poll ticket } []
  | loads {job : Job} {rest : List Job} {ticket : Nat} (hjobs : c.errand.jobs = job :: rest)
      (hstage : c.errand.stage = .holding ticket) :
      Steps now i c a
        ⟨{ c.errand with stage := (Errand.start now ticket job a).1 }, some ⟨now, none⟩⟩
        (Errand.start now ticket job a).2 []
  | saves {job : Job} {rest : List Job} {ticket : Nat} {unsaved : Unsaved}
      (hjobs : c.errand.jobs = job :: rest) (hstage : c.errand.stage = .changed ticket unsaved) :
      Steps now i c a ⟨{ c.errand with stage := .saved ticket }, c.given⟩
        (Errand.save unsaved a) (c.given.toList.map fun given => ⟨i, job, given⟩)
  | finishes {job : Job} {rest : List Job} {ticket : Nat} (hjobs : c.errand.jobs = job :: rest)
      (hstage : c.errand.stage = .saved ticket) :
      Steps now i c a ⟨{ c.errand with jobs := rest, stage := .ready }, c.given⟩
        { a with locks := a.locks.unlock ticket } []

theorem Caller.steps_of_step? {σ : Type} [Backend σ] {now : Instant} {i : Nat} {c : Caller}
    {a b : Agent σ} {errand : Errand} (hstep : c.errand.step? now a = some (errand, b)) :
    c.Steps now i a (c.stepped now errand) b (c.entries i) := by
  obtain ⟨⟨jobs, stage, outcome⟩, given⟩ := c
  cases jobs with
  | nil => exact nomatch hstep
  | cons job rest =>
    cases stage with
    | ready =>
      have hticket : (a.locks.request job.key).1 = a.locks.nextTicket := by
        rw [LockTable.request_eq]
      let asked (ticket : Nat) : Errand × Agent σ :=
        (⟨job :: rest, .waiting ticket, outcome⟩,
          { a with locks := (a.locks.request job.key).2.poll ticket })
      have hnext : some (asked (a.locks.request job.key).1) = some (errand, b) := hstep
      rw [hticket] at hnext
      obtain ⟨rfl, rfl⟩ := Prod.mk.inj (Option.some.inj hnext)
      exact .requests rfl rfl
    | waiting ticket =>
      dsimp only [Errand.step?] at hstep
      split at hstep
      · next hheld =>
        obtain ⟨rfl, rfl⟩ := Prod.mk.inj (Option.some.inj hstep)
        exact .notices rfl rfl hheld
      · exact nomatch hstep
    | holding ticket =>
      obtain ⟨rfl, rfl⟩ := Prod.mk.inj (Option.some.inj hstep)
      exact .loads rfl rfl
    | asking ticket draft => exact nomatch hstep
    | changed ticket unsaved =>
      obtain ⟨rfl, rfl⟩ := Prod.mk.inj (Option.some.inj hstep)
      cases given with
      | none => exact .saves rfl rfl
      | some g => exact .saves rfl rfl
    | saved ticket =>
      obtain ⟨rfl, rfl⟩ := Prod.mk.inj (Option.some.inj hstep)
      exact .finishes rfl rfl

theorem World.step_cases {σ : Type} [Backend σ] (now : Instant) (i : Nat) (w : World σ) :
    w.step now i = w ∨ ∃ c c' a entries, w.callers[i]? = some c ∧
      c.Steps now i w.agent c' a entries ∧ w.step now i = w.turned i c' a entries := by
  cases hc : w.callers[i]? with
  | none => exact .inl (by simp only [step, hc])
  | some c =>
    cases hstep : c.errand.step? now w.agent with
    | none => exact .inl (by simp only [step, hc, hstep])
    | some next =>
      obtain ⟨errand, a⟩ := next
      exact .inr ⟨c, c.stepped now errand, a, c.entries i, rfl, Caller.steps_of_step? hstep,
        by simp only [step, hc, hstep]⟩

end Companion
