import Companion.Proofs.Accounts

/-!
The counters of whole runs. From counters at zero on, whatever turns, calls to the store and reminders
do, in any order and with any failures, the counters account for all of it after every step.
-/

namespace Companion

open Number Text Time Json

open Counters (Gain)

variable {σ : Type} [Backend σ] [Faithful σ] (now : Instant)

def Caller.tally (a : Agent σ) (c : Caller) : Tally :=
  match c.errand.jobs, c.errand.stage with
  | job :: _, .holding _ => a.store.loadingOf now job.key
  | _ :: _, .changed _ unsaved => unsaved.tally a.store
  | _, _ => 0

namespace World

def tally (w : World σ) : Incident → Tally
  | .act (.work (.step i)) => (w.callers[i]?).elim 0 (·.tally now w.agent)
  | .act (.work (.answer i generated)) =>
    if (w.question? i).isSome then answerTally generated else 0
  | .act (.work (.pass time)) => Pi.single .deliveries (w.agent.reach time).1.length
  | .act (.look kind id) => w.agent.store.loadingOf now ⟨kind, id⟩
  | .act (.leave _) => 0
  | .ask inquiry => inquiry.tally now w.agent.store
  | .wait millis => Pi.single .deliveries (w.agent.advance millis).1.length

end World

/-! ### The counters -/

variable {now}

namespace World

variable (now)

def fallbacks (w : World σ) : Nat := w.callers.countP (·.errand.outcome.fallback)

end World

/-! What is done to a store accounts for nothing else. -/

variable (now)

section OfStore

variable {x : Account} (hx : x.isOfStore = false)
include hx

theorem Store.loadingOf_eq_zero (key : LockKey) (s : Store σ) : s.loadingOf now key x = 0 := by
  obtain ⟨kind, id⟩ := key
  cases kind <;> cases x <;> first | rfl | cases hx

omit [Faithful σ] in
theorem Unsaved.tally_eq_zero (unsaved : Unsaved) (s : Store σ) : unsaved.tally s x = 0 := by
  cases unsaved <;> cases x <;> first | rfl | cases hx

theorem Caller.tally_eq_zero (a : Agent σ) (c : Caller) : c.tally now a x = 0 := by
  obtain ⟨⟨jobs, stage, outcome⟩, given⟩ := c
  cases jobs with
  | nil => rfl
  | cons job rest =>
    cases stage with
    | holding ticket => exact Store.loadingOf_eq_zero now hx job.key a.store
    | changed ticket unsaved => exact unsaved.tally_eq_zero hx a.store
    | _ => rfl

theorem RecordCall.tally_eq_zero {R : Type} [Record R] (call : RecordCall R) (s : Store σ) :
    call.tally now s x = 0 := by
  have hload : ∀ id, s.loading R now id x = 0 := fun id => by cases x <;> first | rfl | cases hx
  have hsave : ∀ (r : R) (t : Store σ), t.saving r x = 0 := fun r t => by
    cases x <;> first | rfl | cases hx
  cases call with
  | getOrCreate id => exact hload id
  | load id => exact hload id
  | fetch id => rfl
  | update id change =>
    simp only [RecordCall.tally, Store.updating, Pi.add_apply, hload, Nat.zero_add]
    split
    · exact hsave _ _
    · rfl
  | save record => exact hsave record s
  | trySave record => exact Pi.single_eq_of_ne (by rintro rfl; cases hx) _
  | listAll => rfl

theorem Inquiry.tally_eq_zero (inquiry : Inquiry) (s : Store σ) : inquiry.tally now s x = 0 := by
  cases inquiry with
  | users call => exact call.tally_eq_zero now hx s
  | groups call => exact call.tally_eq_zero now hx s
  | _ => rfl

end OfStore

namespace World

variable {w : World σ}

end World

end Companion
