import Companion.Proofs.Durability
import Companion.Proofs.LockLine
import Companion.Proofs.Serial
import Mathlib.Data.List.Sort

/-!
The order of arrival. A chronicle of a run writes down who came for the lock of a record, whose record
could not be read, and which changes were kept. Since locks are handed out in the order in which they
are asked for, the changes kept in a record stand in the order in which those who made them came.
-/

namespace Companion

open Number Text Time

/-! ### Chronicles -/

/-- One who came for the lock of a record: by whom, for which job, and the ticket that was drawn. -/
structure Arrival where
  caller : Nat
  job : Job
  ticket : Nat

/-- A change that was kept: whose it is, what its job was given, and the reply that its caller has to
send by then. -/
structure Kept where
  arrival : Arrival
  given : Given
  reply : Option String

/-- What is written down about a run: who came for locks, the tickets of those whose record could not be
read, and the changes that were kept. -/
structure Chronicle where
  arrivals : List Arrival := []
  unread : List Nat := []
  kept : List Kept := []

namespace Chronicle

def arrivalsAt (log : Chronicle) (key : LockKey) : List Arrival := log.arrivals.filter (·.job.key = key)

def keptAt (log : Chronicle) (key : LockKey) : List Kept := log.kept.filter (·.arrival.job.key = key)

def jobsOf (log : Chronicle) (i : Nat) : List Job :=
  (log.arrivals.filter (·.caller = i)).map Arrival.job

theorem keptAt_append (log : Chronicle) (k : Kept) (key : LockKey) :
    keptAt { log with kept := log.kept ++ [k] } key =
      if k.arrival.job.key = key then log.keptAt key ++ [k] else log.keptAt key := by
  unfold keptAt
  by_cases hkey : k.arrival.job.key = key <;> simp [hkey]

end Chronicle

section Noting

variable {σ : Type} [Backend σ]

instance (a : Agent σ) : (unsaved : Unsaved) → Decidable (unsaved.Saves a)
  | .nothing => inferInstanceAs (Decidable True)
  | .user r => inferInstanceAs (Decidable (a.store.Writes r))
  | .group r => inferInstanceAs (Decidable (a.store.Writes r))

/-- What is written down at a step of a caller: it comes for a lock, or its record cannot be read, or it
keeps a change whose record could be read, by a write that goes through. -/
def Caller.chronicled (now : Instant) (i : Nat) (a : Agent σ) (c : Caller) (log : Chronicle) :
    Chronicle :=
  match c.errand.jobs, c.errand.stage, c.given with
  | job :: _, .ready, _ => { log with arrivals := log.arrivals ++ [⟨i, job, a.locks.nextTicket⟩] }
  | job :: _, .holding ticket, _ =>
    if job.loadState now a = .readFailed then { log with unread := log.unread ++ [ticket] } else log
  | job :: _, .changed ticket unsaved, some given =>
    if ticket ∉ log.unread ∧ unsaved.Saves a then
      { log with kept := log.kept ++ [⟨⟨i, job, ticket⟩, given, c.errand.outcome.reply⟩] }
    else log
  | _, _, _ => log

namespace World

def noted (now : Instant) (x : Act) (w : World σ) (log : Chronicle) : Chronicle :=
  match x with
  | .work (.step i) =>
    match w.callers[i]? with
    | some c => c.chronicled now i w.agent log
    | none => log
  | _ => log

def chronicle : List (Instant × Act) → World σ → Chronicle → Chronicle
  | [], _, log => log
  | x :: run, w, log => chronicle run (w.act x.1 x.2) (w.noted x.1 x.2 log)

end World

end Noting

/-! ### Steps -/

namespace Caller

/-- Whom the caller is in line as, or has a lock as. -/
def arrival? (i : Nat) (c : Caller) : Option Arrival :=
  match c.errand.jobs, c.errand.stage.ticket? with
  | job :: _, some ticket => some ⟨i, job, ticket⟩
  | _, _ => none

def toCome (c : Caller) : List Job :=
  match c.errand.stage with
  | .ready => c.errand.jobs
  | _ => c.errand.jobs.tail

section Shape

variable {i : Nat} {c : Caller} {job : Job} {rest : List Job} {ticket : Nat}

theorem arrival?_of (hjobs : c.errand.jobs = job :: rest)
    (hticket : c.errand.stage.ticket? = some ticket) : c.arrival? i = some ⟨i, job, ticket⟩ := by
  simp only [arrival?, hjobs, hticket]

theorem arrival?_eq_some {a : Arrival} (h : c.arrival? i = some a) :
    ∃ rest, c.errand.jobs = a.job :: rest ∧ c.errand.stage.ticket? = some a.ticket := by
  unfold arrival? at h
  split at h
  · next job rest ticket hjobs hticket =>
    obtain rfl := Option.some.inj h
    exact ⟨rest, hjobs, hticket⟩
  · cases h

theorem arrival?_ready (h : c.errand.stage = .ready) : c.arrival? i = none := by
  unfold arrival?
  rw [h]
  split
  · next heq => cases heq
  · rfl

theorem toCome_ready (h : c.errand.stage = .ready) : c.toCome = c.errand.jobs := by
  simp only [toCome, h]

theorem toCome_of (hticket : c.errand.stage.ticket? = some ticket) :
    c.toCome = c.errand.jobs.tail := by
  unfold toCome
  split
  · next hready =>
    rw [hready] at hticket
    cases hticket
  · rfl

end Shape

section Chronicled

variable {σ : Type} [Backend σ] {now : Instant} {i : Nat} {a : Agent σ} {c : Caller} {log : Chronicle}
  {job : Job} {rest : List Job} {ticket : Nat}

theorem chronicled_ready (hjobs : c.errand.jobs = job :: rest) (hstage : c.errand.stage = .ready) :
    c.chronicled now i a log =
      { log with arrivals := log.arrivals ++ [⟨i, job, a.locks.nextTicket⟩] } := by
  simp only [chronicled, hjobs, hstage]

/-- Nothing is written down about a caller that waits for a lock or for an answer, or gives its lock
back. -/
theorem chronicled_quiet (hready : c.errand.stage ≠ .ready)
    (hholding : ∀ t, c.errand.stage ≠ .holding t) (hchanged : ∀ t u, c.errand.stage ≠ .changed t u) :
    c.chronicled now i a log = log := by
  unfold chronicled
  split
  · next hstage => exact absurd hstage hready
  · next hstage => exact absurd hstage (hholding _)
  · next hstage _ => exact absurd hstage (hchanged _ _)
  · rfl

theorem chronicled_waiting (hstage : c.errand.stage = .waiting ticket) :
    c.chronicled now i a log = log :=
  chronicled_quiet (by simp [hstage]) (by simp [hstage]) (by simp [hstage])

theorem chronicled_saved (hstage : c.errand.stage = .saved ticket) :
    c.chronicled now i a log = log :=
  chronicled_quiet (by simp [hstage]) (by simp [hstage]) (by simp [hstage])

theorem chronicled_idle (hjobs : c.errand.jobs = []) : c.chronicled now i a log = log := by
  simp only [chronicled, hjobs]

theorem chronicled_holding (hjobs : c.errand.jobs = job :: rest)
    (hstage : c.errand.stage = .holding ticket) : c.chronicled now i a log =
      if job.loadState now a = .readFailed then { log with unread := log.unread ++ [ticket] }
      else log := by
  simp only [chronicled, hjobs, hstage]

theorem chronicled_changed {unsaved : Unsaved} {given : Given} (hjobs : c.errand.jobs = job :: rest)
    (hstage : c.errand.stage = .changed ticket unsaved) (hgiven : c.given = some given) :
    c.chronicled now i a log =
      if ticket ∉ log.unread ∧ unsaved.Saves a then
        { log with kept := log.kept ++ [⟨⟨i, job, ticket⟩, given, c.errand.outcome.reply⟩] }
      else log := by
  simp only [chronicled, hjobs, hstage, hgiven]

end Chronicled

end Caller

/-- A claim in line waits, or it has its mutex. -/
theorem Stage.Claimed.inLine {locks : LockTable} {key : LockKey} {stage : Stage} {t : Nat}
    (h : stage.Claimed locks key) (ht : stage.ticket? = some t) :
    locks.Holds t key .waiting ∨ ∃ s, ClaimStage.hasMutex s = true ∧ locks.Holds t key s := by
  cases stage with
  | ready => cases ht
  | waiting t' =>
    obtain rfl := Option.some.inj ht
    rcases h with h | h | h
    · exact .inl h
    · exact .inr ⟨_, rfl, h⟩
    · exact .inr ⟨_, rfl, h⟩
  | holding t' => obtain rfl := Option.some.inj ht; exact .inr ⟨_, rfl, h⟩
  | asking t' _ => obtain rfl := Option.some.inj ht; exact .inr ⟨_, rfl, h⟩
  | changed t' _ => obtain rfl := Option.some.inj ht; exact .inr ⟨_, rfl, h⟩
  | saved t' => obtain rfl := Option.some.inj ht; exact .inr ⟨_, rfl, h⟩

namespace World

section Acts

variable {σ : Type} [Backend σ]

/-- All that an act can be: it concerns no caller, or a caller makes a step, or one is answered. -/
inductive Acts (now : Instant) (w : World σ) (log : Chronicle) : World σ → Chronicle → Prop
  | idle {w' : World σ} (hcallers : w'.callers = w.callers) (hlocks : w'.agent.locks = w.agent.locks)
      (hjournal : w'.journal = w.journal) : Acts now w log w' log
  | step {i : Nat} {c c' : Caller} {a : Agent σ} {entries : List Entry}
      (hc : w.callers[i]? = some c) (hstep : c.Steps now i w.agent c' a entries) :
      Acts now w log (w.turned i c' a entries) (c.chronicled now i w.agent log)
  | answer {i ticket : Nat} {c : Caller} {draft : Draft} (generated : Except TurnError String)
      (hc : w.callers[i]? = some c) (hstage : c.errand.stage = .asking ticket draft) :
      Acts now w log
        { w with
          agent := (w.agent.finishReply now draft generated).2
          callers := w.callers.set i
            ⟨{ c.errand with
                stage := .changed ticket (.ofUser (w.agent.finishReply now draft generated).1.1)
                outcome := (w.agent.finishReply now draft generated).1.2 },
              c.given.map fun g => { g with answer := some (now, generated) }⟩ } log

/-- Nothing is written down about a caller that cannot go on. -/
theorem chronicled_stuck {now : Instant} {i : Nat} {c : Caller} {a : Agent σ} {log : Chronicle}
    (hstep : c.errand.step? now a = none) : c.chronicled now i a log = log := by
  cases hjobs : c.errand.jobs with
  | nil => exact Caller.chronicled_idle hjobs
  | cons job rest =>
    refine Caller.chronicled_quiet (fun hstage => ?_) (fun t hstage => ?_) (fun t u hstage => ?_)
    all_goals
      simp only [Errand.step?, hjobs, hstage] at hstep
      cases hstep

/-- Every act is one of these. -/
theorem acts (now : Instant) (x : Act) (w : World σ) (log : Chronicle) :
    w.Acts now log (w.act now x) (w.noted now x log) := by
  cases x with
  | look kind id => cases kind <;> exact .idle rfl rfl rfl
  | leave chat => exact .idle rfl rfl rfl
  | work m =>
    cases m with
    | pass time => exact .idle rfl rfl rfl
    | answer i generated =>
      rcases answer_cases now i generated w with hsame | ⟨c, ticket, draft, hc, hstage, hanswer⟩
      · have hact : w.act now (.work (.answer i generated)) = w := hsame
        rw [hact]
        exact .idle rfl rfl rfl
      · have hact : w.act now (.work (.answer i generated)) = _ := hanswer
        rw [hact]
        exact .answer generated hc hstage
    | step i =>
      cases hc : w.callers[i]? with
      | none =>
        have hact : w.act now (.work (.step i)) = w := by
          simp only [act, World.move, World.step, hc]
        have hnoted : w.noted now (.work (.step i)) log = log := by
          simp only [noted, hc]
        rw [hact, hnoted]
        exact .idle rfl rfl rfl
      | some c =>
        have hnoted : w.noted now (.work (.step i)) log = c.chronicled now i w.agent log := by
          simp only [noted, hc]
        rw [hnoted]
        cases hstep : c.errand.step? now w.agent with
        | none =>
          have hact : w.act now (.work (.step i)) = w := by
            simp only [act, World.move, World.step, hc, hstep]
          rw [hact, chronicled_stuck hstep]
          exact .idle rfl rfl rfl
        | some next =>
          have hact : w.act now (.work (.step i)) =
              w.turned i (c.stepped now next.1) next.2 (c.entries i) := by
            simp only [act, World.move, World.step, hc, hstep]
          rw [hact]
          exact .step hc (Caller.steps_of_step? hstep)

end Acts

/-! ### Order -/

/-- Those who come have tickets in the order in which they come, and the changes kept in a record stand
in that order; nobody who is in line for it came before any of them. Every caller comes for its own
jobs, each once and in their order. -/
structure InOrder {σ : Type} (jobs : Nat → List Job) (log : Chronicle) (w : World σ) : Prop where
  lined : w.agent.locks.Lined
  sorted : log.arrivals.Pairwise fun a b => a.ticket < b.ticket
  old : ∀ a ∈ log.arrivals, a.ticket < w.agent.locks.nextTicket
  came : ∀ {i : Nat} {c : Caller} {a : Arrival}, w.callers[i]? = some c → c.arrival? i = some a →
    a ∈ log.arrivals
  accounted : ∀ i, jobs i = log.jobsOf i ++ (w.callers[i]?).elim [] Caller.toCome
  kept_came : ∀ k ∈ log.kept, k.arrival ∈ log.arrivals
  kept_sorted : log.kept.Pairwise fun k l =>
    k.arrival.job.key = l.arrival.job.key → k.arrival.ticket < l.arrival.ticket
  kept_before : ∀ k ∈ log.kept, ∀ {i : Nat} {c : Caller} {a : Arrival}, w.callers[i]? = some c →
    c.arrival? i = some a → a.job.key = k.arrival.job.key → k.arrival.ticket < a.ticket ∨
      k.arrival.ticket = a.ticket ∧ c.errand.stage = .saved a.ticket

section InOrder

variable {σ : Type} {w w' : World σ} {jobs : Nat → List Job} {log log' : Chronicle}
  {i ticket : Nat} {c c' : Caller} {job : Job} {rest : List Job}

/-- The callers after a move of one of them. -/
theorem caller_cases (hc : w.callers[i]? = some c) (hcallers : w'.callers = w.callers.set i c')
    {j : Nat} {d : Caller} (hd : w'.callers[j]? = some d) :
    j = i ∧ d = c' ∨ j ≠ i ∧ w.callers[j]? = some d := by
  by_cases hji : j = i
  · subst hji
    exact .inl ⟨rfl, Option.some.inj (hd.symm.trans (get_moved hc hcallers))⟩
  · exact .inr ⟨hji, (get_others hcallers hji).symm.trans hd⟩

theorem toCome_moved (hc : w.callers[i]? = some c) (hcallers : w'.callers = w.callers.set i c')
    (hcome : c'.toCome = c.toCome) (j : Nat) : (w'.callers[j]?).elim [] Caller.toCome =
      (w.callers[j]?).elim [] Caller.toCome := by
  by_cases hji : j = i
  · subst hji
    rw [get_moved hc hcallers, hc, Option.elim_some, Option.elim_some, hcome]
  · rw [get_others hcallers hji]

/-- A step that leaves a caller in line with the ticket it has, and at which nobody comes and nothing is
kept. -/
theorem InOrder.stays (h : w.InOrder jobs log) (hc : w.callers[i]? = some c)
    (hcallers : w'.callers = w.callers.set i c') (hlined : w'.agent.locks.Lined)
    (hnext : w'.agent.locks.nextTicket = w.agent.locks.nextTicket)
    (harrivals : log'.arrivals = log.arrivals) (hkept : log'.kept = log.kept)
    (hjobs : c.errand.jobs = job :: rest) (hjobs' : c'.errand.jobs = c.errand.jobs)
    (hticket : c.errand.stage.ticket? = some ticket)
    (hticket' : c'.errand.stage.ticket? = some ticket) (hstage : ∀ t, c.errand.stage ≠ .saved t) :
    w'.InOrder jobs log' := by
  have harrival : c'.arrival? i = c.arrival? i :=
    (Caller.arrival?_of (hjobs'.trans hjobs) hticket').trans (Caller.arrival?_of hjobs hticket).symm
  have hcome : c'.toCome = c.toCome := by
    rw [Caller.toCome_of hticket', Caller.toCome_of hticket, hjobs']
  -- whoever is in line now was so before, and if it had saved then it has saved now
  have hthose : ∀ {j : Nat} {d : Caller} {a : Arrival}, w'.callers[j]? = some d →
      d.arrival? j = some a → ∃ e, w.callers[j]? = some e ∧ e.arrival? j = some a ∧
        ∀ t, e.errand.stage = .saved t → d.errand.stage = .saved t := by
    intro j d a hd ha
    rcases caller_cases hc hcallers hd with ⟨rfl, rfl⟩ | ⟨_, hd⟩
    · exact ⟨c, hc, harrival.symm.trans ha, fun t ht => absurd ht (hstage t)⟩
    · exact ⟨d, hd, ha, fun _ ht => ht⟩
  refine ⟨hlined, harrivals ▸ h.sorted, ?_, ?_, fun j => ?_, ?_, hkept ▸ h.kept_sorted, ?_⟩
  · rw [harrivals, hnext]
    exact h.old
  · intro j d a hd ha
    obtain ⟨e, he, hea, _⟩ := hthose hd ha
    rw [harrivals]
    exact h.came he hea
  · rw [toCome_moved hc hcallers hcome, h.accounted j, Chronicle.jobsOf, Chronicle.jobsOf, harrivals]
  · rw [hkept, harrivals]
    exact h.kept_came
  · rw [hkept]
    intro k hk j d a hd ha hkey
    obtain ⟨e, he, hea, hsaved⟩ := hthose hd ha
    exact (h.kept_before k hk he hea hkey).imp id fun ⟨heq, hst⟩ => ⟨heq, hsaved _ hst⟩

/-- Whoever came did so for a job of its own call. -/
theorem InOrder.call_of {settings : RecordSettings} {calls : List Call}
    (h : w.InOrder (World.jobsOf settings calls) log) {a : Arrival} (ha : a ∈ log.arrivals) :
    ∃ call, calls[a.caller]? = some call ∧ a.job ∈ (call.errand settings).jobs := by
  have hjob : a.job ∈ World.jobsOf settings calls a.caller := by
    rw [h.accounted a.caller]
    exact List.mem_append_left _ (List.mem_map_of_mem (List.mem_filter.mpr ⟨ha, by simp⟩))
  cases hcall : calls[a.caller]? with
  | none => simp [World.jobsOf, hcall] at hjob
  | some call =>
    rw [World.jobsOf, hcall, Option.elim_some] at hjob
    exact ⟨call, rfl, hjob⟩

/-- The changes kept in a record stand in the order in which those who made them came for its lock. -/
theorem InOrder.sublist (h : w.InOrder jobs log) (key : LockKey) :
    ((log.keptAt key).map Kept.arrival).Sublist (log.arrivalsAt key) := by
  have hsorted : ((log.keptAt key).map Kept.arrival).Pairwise fun a b => a.ticket < b.ticket := by
    rw [List.pairwise_map]
    refine (h.kept_sorted.filter _).imp_of_mem fun {k l} hk hl hlt => hlt ?_
    have hkkey := of_decide_eq_true (List.mem_filter.mp hk).2
    have hlkey := of_decide_eq_true (List.mem_filter.mp hl).2
    exact hkkey.trans hlkey.symm
  have hsub : (log.keptAt key).map Kept.arrival ⊆ log.arrivalsAt key := by
    intro a ha
    obtain ⟨k, hk, rfl⟩ := List.mem_map.mp ha
    obtain ⟨hk, hkey⟩ := List.mem_filter.mp hk
    exact List.mem_filter.mpr ⟨h.kept_came k hk, hkey⟩
  have hnodup : ((log.keptAt key).map Kept.arrival).Nodup :=
    hsorted.imp fun {a b} hlt (heq : a = b) => Nat.lt_irrefl _ (heq ▸ hlt)
  have hasymm : Std.Antisymm fun a b : Arrival => a.ticket < b.ticket :=
    ⟨fun a b hab hba => absurd hba (Nat.lt_asymm hab)⟩
  exact List.sublist_of_subperm_of_pairwise (List.subperm_of_subset hnodup hsub) hsorted
    (h.sorted.filter _)

variable [Backend σ] [Faithful σ] {rules : Rules} {failing : Prop}

/-- Whoever else is in line for a record came after the one that holds its lock. -/
theorem InOrder.lt_of_holds (h : w.InOrder jobs log) (hsound : w.Sound rules failing)
    (hc : w.callers[i]? = some c) (hticket : c.errand.stage.ticket? = some ticket)
    (hold : w.agent.locks.Holds ticket job.key .holding) {j : Nat} {d : Caller} {a : Arrival}
    (hd : w.callers[j]? = some d) (ha : d.arrival? j = some a) (hji : j ≠ i)
    (hkey : a.job.key = job.key) : ticket < a.ticket := by
  obtain ⟨rest, hjobs, hat⟩ := Caller.arrival?_eq_some ha
  have hclaim := (hsound.fits hd).claimed hjobs
  rw [hkey] at hclaim
  rcases hclaim.inLine hat with hwait | ⟨s, hmutex, hs⟩
  · exact h.lined.lt_of_holds hsound.locked hold hwait
  · have heq := hsound.locked.holds_exclusive hold hs hmutex
    exact absurd (hsound.apart hd hc (heq ▸ hat) hticket) hji

/-- One who comes for a lock is the last to have come. -/
theorem InOrder.requests (h : w.InOrder jobs log) (hsound : w.Sound rules failing)
    (hc : w.callers[i]? = some c) (hjobs : c.errand.jobs = job :: rest)
    (hstage : c.errand.stage = .ready) (hcallers : w'.callers = w.callers.set i c')
    (hlocks : w'.agent.locks = w.agent.locks.acquired job.key)
    (hjobs' : c'.errand.jobs = c.errand.jobs)
    (hstage' : c'.errand.stage = .waiting w.agent.locks.nextTicket) :
    w'.InOrder jobs
      { log with arrivals := log.arrivals ++ [⟨i, job, w.agent.locks.nextTicket⟩] } := by
  have hticket' : c'.errand.stage.ticket? = some w.agent.locks.nextTicket := by rw [hstage']; rfl
  have harrival' := Caller.arrival?_of (i := i) (hjobs'.trans hjobs) hticket'
  have hthose : ∀ {j : Nat} {d : Caller} {a : Arrival}, w'.callers[j]? = some d →
      d.arrival? j = some a →
      a = ⟨i, job, w.agent.locks.nextTicket⟩ ∨ w.callers[j]? = some d := by
    intro j d a hd ha
    rcases caller_cases hc hcallers hd with ⟨rfl, rfl⟩ | ⟨_, hd⟩
    · exact .inl (Option.some.inj (ha.symm.trans harrival'))
    · exact .inr hd
  refine ⟨hlocks ▸ h.lined.acquired hsound.locked job.key, ?_, ?_, ?_, fun j => ?_, ?_, h.kept_sorted,
    ?_⟩
  · rw [List.pairwise_append]
    refine ⟨h.sorted, List.pairwise_singleton _ _, fun a ha b hb => ?_⟩
    rw [List.mem_singleton.mp hb]
    exact h.old a ha
  · intro a ha
    rw [hlocks, LockTable.nextTicket_acquired]
    rcases List.mem_append.mp ha with ha | ha
    · exact Nat.lt_succ_of_lt (h.old a ha)
    · rw [List.mem_singleton.mp ha]
      exact Nat.lt_succ_self _
  · intro j d a hd ha
    rcases hthose hd ha with rfl | hd
    · exact List.mem_append_right _ (List.mem_singleton_self _)
    · exact List.mem_append_left _ (h.came hd ha)
  · rw [h.accounted j, Chronicle.jobsOf, Chronicle.jobsOf, List.filter_append, List.map_append]
    by_cases hji : j = i
    · subst hji
      rw [get_moved hc hcallers, hc, Option.elim_some, Option.elim_some, Caller.toCome_ready hstage,
        Caller.toCome_of hticket', hjobs', hjobs]
      simp
    · rw [get_others hcallers hji]
      simp [Ne.symm hji]
  · exact fun k hk => List.mem_append_left _ (h.kept_came k hk)
  · intro k hk j d a hd ha hkey
    rcases hthose hd ha with rfl | hd
    · exact .inl (h.old _ (h.kept_came k hk))
    · exact h.kept_before k hk hd ha hkey

/-- One who keeps a change came after all whose changes were kept in the record before. -/
theorem InOrder.keeps (h : w.InOrder jobs log) (hsound : w.Sound rules failing)
    (hc : w.callers[i]? = some c) (hjobs : c.errand.jobs = job :: rest) {unsaved : Unsaved}
    (hstage : c.errand.stage = .changed ticket unsaved) (hcallers : w'.callers = w.callers.set i c')
    (hlocks : w'.agent.locks = w.agent.locks) (hjobs' : c'.errand.jobs = c.errand.jobs)
    (hstage' : c'.errand.stage = .saved ticket) {k : Kept} (hk : k.arrival = ⟨i, job, ticket⟩) :
    w'.InOrder jobs { log with kept := log.kept ++ [k] } := by
  have hticket : c.errand.stage.ticket? = some ticket := by rw [hstage]; rfl
  have hticket' : c'.errand.stage.ticket? = some ticket := by rw [hstage']; rfl
  have harrival := Caller.arrival?_of (i := i) hjobs hticket
  have harrival' := Caller.arrival?_of (i := i) (hjobs'.trans hjobs) hticket'
  have hold := (hsound.fits hc).claimed hjobs
  rw [hstage] at hold
  have hunsaved : ∀ t, c.errand.stage ≠ .saved t := by
    intro t ht
    rw [hstage] at ht
    cases ht
  have hmoved : w'.InOrder jobs log :=
    h.stays hc hcallers (hlocks ▸ h.lined) (congrArg _ hlocks) rfl rfl hjobs hjobs' hticket hticket'
      hunsaved
  refine ⟨hmoved.lined, hmoved.sorted, hmoved.old, hmoved.came, hmoved.accounted, ?_, ?_, ?_⟩
  · intro l hl
    rcases List.mem_append.mp hl with hl | hl
    · exact h.kept_came l hl
    · rw [List.mem_singleton.mp hl, hk]
      exact h.came hc harrival
  · rw [List.pairwise_append]
    refine ⟨h.kept_sorted, List.pairwise_singleton _ _, fun l hl m hm hkey => ?_⟩
    rw [List.mem_singleton.mp hm, hk] at hkey ⊢
    rcases h.kept_before l hl hc harrival hkey.symm with hlt | ⟨_, hsaved⟩
    · exact hlt
    · exact absurd hsaved (hunsaved _)
  · intro l hl j d a hd ha hkey
    rcases List.mem_append.mp hl with hl | hl
    · exact hmoved.kept_before l hl hd ha hkey
    · rw [List.mem_singleton.mp hl, hk] at hkey ⊢
      rcases caller_cases hc hcallers hd with ⟨rfl, rfl⟩ | ⟨hji, hd⟩
      · obtain rfl := Option.some.inj (ha.symm.trans harrival')
        exact .inr ⟨rfl, hstage'⟩
      · exact .inl (h.lt_of_holds hsound hc hticket hold hd ha hji hkey)

/-- One who gives its lock back is no longer in line. -/
theorem InOrder.finishes (h : w.InOrder jobs log) (hsound : w.Sound rules failing)
    (hc : w.callers[i]? = some c) (hjobs : c.errand.jobs = job :: rest)
    (hstage : c.errand.stage = .saved ticket) (hcallers : w'.callers = w.callers.set i c')
    (hlocks : w'.agent.locks = w.agent.locks.unlock ticket) (hjobs' : c'.errand.jobs = rest)
    (hstage' : c'.errand.stage = .ready) : w'.InOrder jobs log := by
  have hclaim := (hsound.fits hc).claimed hjobs
  rw [hstage] at hclaim
  obtain ⟨mutex, hclaim⟩ := hclaim
  have hlined := h.lined.unlock hsound.locked hclaim rfl
  have hthose : ∀ {j : Nat} {d : Caller} {a : Arrival}, w'.callers[j]? = some d →
      d.arrival? j = some a → w.callers[j]? = some d := by
    intro j d a hd ha
    rcases caller_cases hc hcallers hd with ⟨rfl, rfl⟩ | ⟨_, hd⟩
    · rw [Caller.arrival?_ready hstage'] at ha
      cases ha
    · exact hd
  refine ⟨hlocks ▸ hlined, h.sorted, ?_, fun hd ha => h.came (hthose hd ha) ha, fun j => ?_,
    h.kept_came, h.kept_sorted, fun k hk j d a hd ha => h.kept_before k hk (hthose hd ha) ha⟩
  · rw [hlocks, LockTable.nextTicket_unlock]
    exact h.old
  · have hticket : c.errand.stage.ticket? = some ticket := by rw [hstage]; rfl
    have hcome : c'.toCome = c.toCome := by
      rw [Caller.toCome_ready hstage', Caller.toCome_of hticket, hjobs, hjobs']
      rfl
    rw [toCome_moved hc hcallers hcome]
    exact h.accounted j

theorem InOrder.step (h : w.InOrder jobs log) (hsound : w.Sound rules failing) {now : Instant}
    {a : Agent σ} {entries : List Entry} (hc : w.callers[i]? = some c)
    (hstep : c.Steps now i w.agent c' a entries) :
    (w.turned i c' a entries).InOrder jobs (c.chronicled now i w.agent log) := by
  cases hstep with
  | requests hjobs hstage =>
    rw [Caller.chronicled_ready hjobs hstage]
    exact h.requests hsound hc hjobs hstage rfl rfl rfl rfl
  | @notices job rest ticket hjobs hstage hheld =>
    have hticket : c.errand.stage.ticket? = some ticket := by rw [hstage]; rfl
    have hlined : (w.agent.locks.poll ticket).Lined := by
      have hclaim := (hsound.fits hc).claimed hjobs
      rw [hstage] at hclaim
      rcases hclaim with ⟨m, hm⟩ | ⟨m, hm⟩ | ⟨m, hm⟩ <;>
        exact h.lined.poll hsound.locked hm (by simp)
    rw [Caller.chronicled_waiting hstage]
    exact h.stays hc rfl hlined (LockTable.nextTicket_poll _ _) rfl rfl hjobs rfl hticket rfl
      (by simp [hstage])
  | @loads job rest ticket hjobs hstage =>
    have hstart : Errand.Started now ticket job True w.agent _ _ :=
      started_start job (.inl trivial)
    have hticket : c.errand.stage.ticket? = some ticket := by rw [hstage]; rfl
    have hlocks : (Errand.start now ticket job w.agent).2.locks = w.agent.locks := hstart.keeps.locks
    have hsame : (c.chronicled now i w.agent log).arrivals = log.arrivals ∧
        (c.chronicled now i w.agent log).kept = log.kept := by
      rw [Caller.chronicled_holding hjobs hstage]
      split <;> exact ⟨rfl, rfl⟩
    exact h.stays hc rfl (hlocks ▸ h.lined) (congrArg _ hlocks) hsame.1 hsame.2 hjobs rfl hticket
      hstart.isOpen.ticket? (by simp [hstage])
  | @saves job rest ticket unsaved hjobs hstage =>
    obtain ⟨_, g, hgiven, _⟩ := hsound.unsaved_cases hc hjobs hstage
    have hticket : c.errand.stage.ticket? = some ticket := by rw [hstage]; rfl
    have hlocks := (save_keeps (a := w.agent) unsaved).locks
    have hcallers : (w.turned i ⟨{ c.errand with stage := .saved ticket }, c.given⟩
        (Errand.save unsaved w.agent) (c.given.toList.map fun given => ⟨i, job, given⟩)).callers =
        w.callers.set i ⟨{ c.errand with stage := .saved ticket }, c.given⟩ := rfl
    rw [Caller.chronicled_changed hjobs hstage hgiven]
    split
    · exact h.keeps hsound hc hjobs hstage hcallers hlocks rfl rfl rfl
    · exact h.stays hc rfl (hlocks ▸ h.lined) (congrArg _ hlocks) rfl rfl hjobs rfl hticket rfl
        (by simp [hstage])
  | finishes hjobs hstage =>
    rw [Caller.chronicled_saved hstage]
    exact h.finishes hsound hc hjobs hstage rfl rfl rfl rfl

theorem InOrder.acts (h : w.InOrder jobs log) (hsound : w.Sound rules failing) {now : Instant}
    (hact : w.Acts now log w' log') : w'.InOrder jobs log' := by
  cases hact with
  | idle hcallers hlocks hjournal =>
    exact ⟨hlocks ▸ h.lined, h.sorted, hlocks ▸ h.old, hcallers ▸ h.came, hcallers ▸ h.accounted,
      h.kept_came, h.kept_sorted, hcallers ▸ h.kept_before⟩
  | step hc hstep => exact h.step hsound hc hstep
  | @answer i ticket c draft generated hc hstage =>
    have hticket : c.errand.stage.ticket? = some ticket := by rw [hstage]; rfl
    obtain ⟨job, rest, _, hjobs, _⟩ := (hsound.fits hc).holds hticket
    have hlocks := (finishReply_keeps w.agent now draft generated).1.locks
    exact h.stays hc rfl (hlocks ▸ h.lined) (congrArg _ hlocks) rfl rfl hjobs rfl hticket rfl
      (by simp [hstage])

end InOrder

/-- Nobody has come when calls are about to begin. -/
theorem inOrder_start {σ : Type} {agent : Agent σ} {calls : List Call} (hlocks : agent.locks = {}) :
    (start agent calls).InOrder (jobsOf agent.store.settings calls) {} where
  lined := hlocks ▸ LockTable.lined_empty
  sorted := .nil
  old a ha := absurd ha List.not_mem_nil
  came := by
    intro i c a hc ha
    obtain ⟨call, _, rfl⟩ := List.mem_map.mp (List.mem_of_getElem? hc)
    rw [Caller.arrival?_ready (call.stage_errand _)] at ha
    cases ha
  accounted i := by
    unfold jobsOf start
    rw [List.getElem?_map]
    cases calls[i]? with
    | none => rfl
    | some call =>
      have hready : ({ errand := call.errand agent.store.settings } : Caller).errand.stage = .ready :=
        call.stage_errand _
      exact (Caller.toCome_ready hready).symm
  kept_came k hk := absurd hk List.not_mem_nil
  kept_sorted := .nil
  kept_before k hk := absurd hk List.not_mem_nil

end World

end Companion
