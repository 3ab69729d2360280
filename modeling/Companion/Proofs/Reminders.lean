import Companion.Proofs.AccountRuns

/-!
Reminders. Every reminder that a reply asks for waits in the schedule under a number of its own until
its time has come, and then it is delivered: once, to the chat of the event that was replied to, with
its own text, and never early if the timer of the schedule ends no wait early. What no time moved past
still waits.
-/

namespace Companion

open Number Text Time Json

/-! ### Timers -/

/-- A timer ends no wait before its delay is over, and every wait by the end of the millisecond in which
it is. -/
structure Timer.IsPunctual (timer : Timer) : Prop where
  not_early : ∀ delay, delay ≤ timer delay * 1000000
  in_time : ∀ delay, timer delay * 1000000 < delay + 1000000

/-- A reminder that was asked for in the reply to an event, and the time at which it was. -/
structure Promise where
  event : Event
  reminder : Reminder
  made : Nat
  deriving DecidableEq, Repr

/-- What waits for the time of a promise with a number. -/
def Promise.awaits (settings : DirectiveSettings) (timer : Timer) (p : Promise) (number : Nat) :
    Pending Delivery :=
  ⟨.ofNat number, p.made + timer p.reminder.delay,
    ⟨p.event.chat, settings.reminderStart ++ p.reminder.text⟩⟩

/-- What waits for the times of promises that are numbered from `n` on. -/
def awaiting (settings : DirectiveSettings) (timer : Timer) (n : Nat) (promises : List Promise) :
    List (Pending Delivery) :=
  (promises.zipIdx n).map fun x => x.1.awaits settings timer x.2

def Promise.IsOver (p : Promise) (time : Nat) : Prop :=
  p.made * 1000000 + p.reminder.delay ≤ time * 1000000

instance (p : Promise) (time : Nat) : Decidable (p.IsOver time) :=
  inferInstanceAs (Decidable (_ ≤ time * 1000000))

/-- A wait has ended by the time that its delay is over. -/
theorem Timer.IsPunctual.le_of_isOver {timer : Timer} (h : timer.IsPunctual) {p : Promise} {time : Nat}
    (hover : p.IsOver time) : p.made + timer p.reminder.delay ≤ time := by
  have hin := h.in_time p.reminder.delay
  unfold Promise.IsOver at hover
  omega

/-- When a wait has ended its delay is over. -/
theorem Timer.IsPunctual.isOver {timer : Timer} (h : timer.IsPunctual) (p : Promise) :
    p.IsOver (p.made + timer p.reminder.delay) := by
  have hnot := h.not_early p.reminder.delay
  unfold Promise.IsOver
  omega

/-- What those who asked for reminders get for them, which are numbered from `n` on. -/
def handlesFor (clock : Instant) (n : Nat) (reminders : List Reminder) : List ScheduledReminder :=
  (reminders.zipIdx n).map fun x => ⟨x.1, ⟨.ofNat x.2, x.1.delay, clock.later x.1.delay⟩⟩

/-- Carrying out directives numbers their reminders and schedules each of them. -/
theorem foldl_carryOut_awaits (settings : DirectiveSettings) (event : Event) (clock : Instant)
    (directives : List Directive) (e : Effects) {n : Nat} (hnext : e.schedule.next = .ofNat n) :
    (directives.foldl (Effects.carryOut settings event.chat clock) e).schedule =
        ⟨e.schedule.now, .ofNat (n + (remindersIn directives).length), e.schedule.pending ++
          awaiting settings e.schedule.timer n
            ((remindersIn directives).map (⟨event, ·, e.schedule.now⟩)), e.schedule.timer⟩ ∧
      (directives.foldl (Effects.carryOut settings event.chat clock) e).reminders =
        e.reminders ++ handlesFor clock n (remindersIn directives) := by
  induction directives generalizing e n with
  | nil =>
    refine ⟨?_, (List.append_nil _).symm⟩
    show e.schedule = ⟨e.schedule.now, .ofNat n, e.schedule.pending ++ [], e.schedule.timer⟩
    rw [List.append_nil, ← hnext]
  | cons directive directives ih =>
    cases directive with
    | update facts => exact ih (e.carryOut settings event.chat clock (.update facts)) hnext
    | remind reminder =>
      have hsucc : (e.carryOut settings event.chat clock (.remind reminder)).schedule.next =
          .ofNat (n + 1) := by
        rw [UInt64.ofNat_add, ← hnext]
        rfl
      obtain ⟨hschedule, hreminders⟩ := ih _ hsucc
      have hreminder : remindersIn (.remind reminder :: directives) =
          reminder :: remindersIn directives := rfl
      refine ⟨hschedule.trans ?_, hreminders.trans ?_⟩
      · simp [hreminder, Effects.carryOut, Schedule.add, awaiting, Promise.awaits, hnext,
          Nat.add_assoc, Nat.add_comm 1]
      · simp [hreminder, Effects.carryOut, Schedule.add, handlesFor, hnext]

/-! ### Moving on in time -/

namespace Schedule

variable {α : Type} (s : Schedule α) (time : Nat)

/-- What fires when time moves on, and what is left, is what waited. -/
theorem advanceTo_perm : ((s.advanceTo time).1 ++ (s.advanceTo time).2.pending).Perm s.pending := by
  have hlate : s.pending.filter (fun p => time < p.due) =
      s.pending.filter fun p => !decide (p.due ≤ time) := by
    refine List.filter_congr fun p _ => ?_
    simp only [← decide_not, Nat.not_le]
  have hsorted := (List.mergeSort_perm (s.pending.filter fun p => p.due ≤ time)
    fun p q => p.due ≤ q.due).append_right (s.pending.filter fun p => time < p.due)
  refine hsorted.trans ?_
  rw [hlate]
  exact List.filter_append_perm _ _

/-- What fires when time moves on is due by then. -/
theorem due_advanceTo {p : Pending α} (hp : p ∈ (s.advanceTo time).1) : p.due ≤ time := by
  have hmem := (List.mergeSort_perm _ _).mem_iff.mp hp
  simpa using (List.mem_filter.mp hmem).2

def IsIdle (s : Schedule α) : Prop := ∀ p ∈ s.pending, s.now < p.due

instance : Decidable s.IsIdle := inferInstanceAs (Decidable (∀ p ∈ s.pending, s.now < p.due))

end Schedule

/-! ### What a run promises and delivers -/

/-- What was promised, what those got who asked for it, and what was delivered, with the time by which
it was. -/
structure Log where
  promises : List Promise := []
  handles : List ScheduledReminder := []
  deliveries : List (Nat × Pending Delivery) := []

instance : Append Log :=
  ⟨fun l m => ⟨l.promises ++ m.promises, l.handles ++ m.handles, l.deliveries ++ m.deliveries⟩⟩

namespace Log

@[simp]
theorem promises_append (l m : Log) : (l ++ m).promises = l.promises ++ m.promises := rfl

@[simp]
theorem handles_append (l m : Log) : (l ++ m).handles = l.handles ++ m.handles := rfl

@[simp]
theorem deliveries_append (l m : Log) : (l ++ m).deliveries = l.deliveries ++ m.deliveries := rfl

theorem append_empty (l : Log) : l ++ ({} : Log) = l := by
  show Log.mk (l.promises ++ []) (l.handles ++ []) (l.deliveries ++ []) = l
  simp only [List.append_nil]

theorem append_assoc (l m n : Log) : l ++ m ++ n = l ++ (m ++ n) :=
  Log.mk.injEq .. ▸ ⟨List.append_assoc .., List.append_assoc .., List.append_assoc ..⟩

end Log

namespace World

variable {σ : Type}

/-- The event that a caller was called with, while it waits for the model. -/
def asking? (calls : List Call) (w : World σ) (i : Nat) : Option Event :=
  match w.question? i, calls[i]? with
  | some _, some (.message _ event) => some event
  | _, _ => none

variable [Backend σ]

/-- What an incident promises and delivers. A generated text promises every reminder that it asks for,
to the one who sent the event. -/
def log (calls : List Call) (now : Instant) (w : World σ) : Incident → Log
  | .act (.work (.answer i (.ok text))) =>
    match w.asking? calls i with
    | some event => {
        promises := ((scan text.toList).filterMap (·.asked? w.agent.directives)).map
          (⟨event, ·, w.agent.schedule.now⟩)
        handles := ((w.answer now i (.ok text)).callers[i]?).elim [] (·.errand.outcome.reminders) }
    | none => {}
  | .act (.work (.pass time)) => { deliveries := (w.agent.reach time).1.map (time, ·) }
  | .wait millis =>
    let (fired, agent) := w.agent.advance millis
    { deliveries := fired.map (agent.schedule.now, ·) }
  | _ => {}

/-- All promises of a log are kept or still waited for. -/
structure Honours (settings : DirectiveSettings) (timer : Timer) (w : World σ) (log : Log) : Prop where
  settled : w.agent.directives = settings
  timed : w.agent.schedule.timer = timer
  next : w.agent.schedule.next = .ofNat log.promises.length
  once : (log.deliveries.map Prod.snd ++ w.agent.schedule.pending).Perm
    (awaiting settings timer 0 log.promises)
  told : log.handles.map (fun h => (h.reminder, h.receipt.id)) =
    (log.promises.zipIdx 0).map fun x => (x.1.reminder, .ofNat x.2)
  timely : ∀ d ∈ log.deliveries, d.2.due ≤ d.1

section Steps

variable {settings : DirectiveSettings} {timer : Timer} {w w' : World σ} {log : Log}

omit [Backend σ] in
/-- What leaves the schedule alone leaves all promises as they are. -/
theorem Honours.quiet (h : w.Honours settings timer log)
    (hdirectives : w'.agent.directives = w.agent.directives)
    (hschedule : w'.agent.schedule = w.agent.schedule) :
    w'.Honours settings timer (log ++ {}) := by
  rw [Log.append_empty]
  exact ⟨hdirectives.trans h.settled, hschedule ▸ h.timed, hschedule ▸ h.next, hschedule ▸ h.once,
    h.told, h.timely⟩

omit [Backend σ] in
/-- What fires is delivered, by the time that is reached. -/
theorem Honours.deliver (h : w.Honours settings timer log)
    (hdirectives : w'.agent.directives = w.agent.directives) {fired : List (Pending Delivery)}
    {time : Nat} (htimer : w'.agent.schedule.timer = w.agent.schedule.timer)
    (hnext : w'.agent.schedule.next = w.agent.schedule.next)
    (hperm : (fired ++ w'.agent.schedule.pending).Perm w.agent.schedule.pending)
    (hdue : ∀ p ∈ fired, p.due ≤ time) :
    w'.Honours settings timer (log ++ { deliveries := fired.map (time, ·) }) where
  settled := hdirectives.trans h.settled
  timed := htimer.trans h.timed
  next := by simpa [hnext] using h.next
  once := by
    have hfired : (fired.map fun p => (time, p)).map Prod.snd = fired := by
      rw [List.map_map]
      exact List.map_id fired
    rw [Log.deliveries_append, Log.promises_append, List.append_nil, List.map_append, hfired,
      List.append_assoc]
    exact (hperm.append_left _).trans h.once
  told := by simpa using h.told
  timely := by
    intro d hd
    rcases List.mem_append.mp hd with hd | hd
    · exact h.timely d hd
    · obtain ⟨p, hp, rfl⟩ := List.mem_map.mp hd
      exact hdue p hp

omit [Backend σ] in
/-- What is scheduled for a reply is promised. -/
theorem Honours.promise (h : w.Honours settings timer log)
    (hdirectives : w'.agent.directives = w.agent.directives) {event : Event}
    {reminders : List Reminder} {clock : Instant}
    (hschedule : w'.agent.schedule = ⟨w.agent.schedule.now,
      .ofNat (log.promises.length + reminders.length), w.agent.schedule.pending ++
        awaiting settings timer log.promises.length (reminders.map (⟨event, ·, w.agent.schedule.now⟩)),
      timer⟩) :
    w'.Honours settings timer (log ++ {
      promises := reminders.map (⟨event, ·, w.agent.schedule.now⟩)
      handles := handlesFor clock log.promises.length reminders }) where
  settled := hdirectives.trans h.settled
  timed := by rw [hschedule]
  next := by simp [hschedule]
  once := by
    rw [hschedule, Log.deliveries_append, Log.promises_append, List.append_nil]
    have hmore : awaiting settings timer 0
        (log.promises ++ reminders.map (⟨event, ·, w.agent.schedule.now⟩)) =
        awaiting settings timer 0 log.promises ++ awaiting settings timer log.promises.length
          (reminders.map (⟨event, ·, w.agent.schedule.now⟩)) := by
      simp [awaiting, List.zipIdx_append]
    rw [hmore, ← List.append_assoc]
    exact h.once.append_right _
  told := by
    rw [Log.handles_append, Log.promises_append, List.map_append, h.told, List.zipIdx_append,
      List.map_append, Nat.zero_add, handlesFor, List.zipIdx_map, List.map_map, List.map_map]
    rfl
  timely := by simpa using h.timely

end Steps

/-! ### Incidents -/

variable {calls : List Call} {settings : DirectiveSettings} {timer : Timer} {w : World σ} {log : Log}
variable (now : Instant)

/-- Steps of callers schedule nothing. -/
theorem schedule_step (i : Nat) (w : World σ) : (w.step now i).agent.schedule = w.agent.schedule ∧
    (w.step now i).agent.directives = w.agent.directives := by
  rcases w.step_cases now i with hsame | ⟨c, c', a, entries, hc, hstep, hturn⟩
  · rw [hsame]
    exact ⟨rfl, rfl⟩
  · rw [hturn]
    cases hstep with
    | @loads job rest ticket hjobs hstage => cases job <;> exact ⟨rfl, rfl⟩
    | @saves job rest ticket unsaved hjobs hstage => cases unsaved <;> exact ⟨rfl, rfl⟩
    | _ => exact ⟨rfl, rfl⟩

/-- Every caller has only jobs of the call that it is for. -/
def Serves (calls : List Call) (w : World σ) : Prop := ∀ {i : Nat} {c : Caller},
  w.callers[i]? = some c → ∃ call settings, calls[i]? = some call ∧
    c.errand.jobs ⊆ (Call.errand settings call).jobs

theorem Serves.meet (h : w.Serves calls) (x : Incident) : (w.meet now x).Serves calls := by
  cases x with
  | act x =>
    intro i d hd
    obtain ⟨c, hc, hsub⟩ := jobs_act x hd
    obtain ⟨call, settings, hcall, hjobs⟩ := h hc
    exact ⟨call, settings, hcall, List.Subset.trans hsub hjobs⟩
  | ask inquiry => exact h
  | wait millis => exact h

omit [Backend σ] in
/-- Whoever waits for the model was called with the event that it asks about. -/
theorem Serves.asking (h : w.Serves calls) (hordered : w.Orderly) {i : Nat} {c : Caller}
    (hc : w.callers[i]? = some c) {ticket : Nat} {draft : Draft}
    (hstage : c.errand.stage = .asking ticket draft) (hasks : w.question? i = some draft) :
    w.asking? calls i = some draft.event := by
  obtain ⟨call, settings, hcall, hjobs⟩ := h hc
  have hreply : .reply draft.event ∈ (call.errand settings).jobs := by
    refine hjobs ?_
    rw [(hordered hc).asks hstage]
    exact List.mem_cons_self
  cases call with
  | message clock event =>
    rcases mem_ofEvent hreply with heq | heq | heq
    · cases heq
    · cases heq
    · rw [asking?, hasks, hcall, Job.reply.inj heq]
  | _ => simp [Call.errand, Errand.ofAdded] at hreply

omit [Backend σ] in
/-- What a reply asks for is promised, and those who ask are told. -/
theorem Honours.answer (h : w.Honours settings timer log) (hserves : w.Serves calls)
    (hordered : w.Orderly) (i : Nat) (generated : Except TurnError String) :
    (w.answer now i generated).Honours settings timer
      (log ++ w.log calls now (.act (.work (.answer i generated)))) := by
  cases hasks : w.question? i with
  | none =>
    have hlog : w.log calls now (.act (.work (.answer i generated))) = {} := by
      cases generated <;> simp [World.log, asking?, hasks]
    rw [answer_unasked hasks, hlog]
    exact h.quiet rfl rfl
  | some draft =>
    obtain ⟨c, ticket, hc, hstage, hanswer⟩ := answer_asked hasks now generated
    cases generated with
    | error e => exact h.quiet (by rw [hanswer]; rfl) (by rw [hanswer]; rfl)
    | ok text =>
      have hevent := hserves.asking hordered hc hstage hasks
      have hi : i < w.callers.length := (List.getElem?_eq_some_iff.mp hc).1
      obtain ⟨hschedule, hreminders⟩ := foldl_carryOut_awaits w.agent.directives draft.event now
        (Reply.parse w.agent.directives text).directives
        ⟨draft.loaded.record, w.agent.schedule, w.agent.store.counters.add
          (.ofNat (Reply.parse w.agent.directives text).dropped.length) .directivesDropped, 0, []⟩
        h.next
      rw [remindersIn_parse] at hschedule hreminders
      have hhandles : ((w.answer now i (.ok text)).callers[i]?).elim [] (·.errand.outcome.reminders) =
          handlesFor now log.promises.length
            ((scan text.toList).filterMap (·.asked? w.agent.directives)) := by
        rw [hanswer]
        dsimp only
        rw [List.getElem?_set_self hi]
        exact hreminders
      rw [World.log, hevent, hhandles]
      exact h.promise (by rw [hanswer]; rfl) (by rw [hanswer, ← h.settled, ← h.timed]; exact hschedule)

/-- Every incident keeps all promises. -/
theorem Honours.meet (h : w.Honours settings timer log) (hserves : w.Serves calls)
    (hordered : w.Orderly) (x : Incident) :
    (w.meet now x).Honours settings timer (log ++ w.log calls now x) := by
  cases x with
  | act x =>
    cases x with
    | work m =>
      cases m with
      | step i =>
        obtain ⟨hschedule, hdirectives⟩ := schedule_step now i w
        exact h.quiet hdirectives hschedule
      | answer i generated => exact h.answer now hserves hordered i generated
      | pass time =>
        have hdue : ∀ p ∈ (w.agent.reach time).1, p.due ≤ time := fun p hp =>
          Nat.le_trans (w.agent.schedule.due_advanceTo (time - 1) hp) (Nat.sub_le time 1)
        refine h.deliver ?_ ?_ ?_ ?_ hdue
        · rfl
        · rfl
        · rfl
        · exact w.agent.schedule.advanceTo_perm (time - 1)
    | look kind id => cases kind <;> exact h.quiet rfl rfl
    | leave chat => exact h.quiet rfl rfl
  | ask inquiry => exact h.quiet rfl rfl
  | wait millis =>
    have hdue : ∀ p ∈ (w.agent.advance millis).1, p.due ≤ (w.agent.advance millis).2.schedule.now :=
      fun p hp => w.agent.schedule.due_advanceTo _ hp
    refine h.deliver ?_ ?_ ?_ ?_ hdue
    · rfl
    · rfl
    · rfl
    · exact w.agent.schedule.advanceTo_perm _

section Honours

variable {σ : Type} {settings : DirectiveSettings} {timer : Timer} {w : World σ} {log : Log}

theorem mem_awaiting {promises : List Promise} {x : Pending Delivery} :
    x ∈ awaiting settings timer 0 promises ↔
      ∃ k, ∃ p : Promise, promises[k]? = some p ∧ x = p.awaits settings timer k := by
  unfold awaiting
  constructor
  · intro hx
    obtain ⟨⟨p, k⟩, hp, rfl⟩ := List.mem_map.mp hx
    exact ⟨k, p, List.mem_zipIdx_iff_getElem?.mp hp, rfl⟩
  · rintro ⟨k, p, hp, rfl⟩
    exact List.mem_map.mpr ⟨(p, k), List.mem_zipIdx_iff_getElem?.mpr hp, rfl⟩

/-- A delivery is that of a promise, and when it is due the delay of the promise is over. -/
theorem Honours.delivered (h : w.Honours settings timer log) (htimer : timer.IsPunctual)
    {d : Nat × Pending Delivery} (hd : d ∈ log.deliveries) :
    ∃ k, ∃ p : Promise, log.promises[k]? = some p ∧ d.2 = p.awaits settings timer k ∧
      p.IsOver d.2.due := by
  have hmem : d.2 ∈ awaiting settings timer 0 log.promises :=
    h.once.mem_iff.mp (List.mem_append_left _ (List.mem_map_of_mem hd))
  obtain ⟨k, p, hp, hpending⟩ := mem_awaiting.mp hmem
  refine ⟨k, p, hp, hpending, ?_⟩
  rw [hpending]
  exact htimer.isOver p

/-- A promise that is over is delivered once nothing is due. -/
theorem Honours.kept (h : w.Honours settings timer log) (htimer : timer.IsPunctual)
    (hidle : w.agent.schedule.IsIdle) {k : Nat} {p : Promise} (hp : log.promises[k]? = some p)
    (hover : p.IsOver w.agent.schedule.now) :
    ∃ time, (time, p.awaits settings timer k) ∈ log.deliveries := by
  rcases List.mem_append.mp (h.once.mem_iff.mpr (mem_awaiting.mpr ⟨k, p, hp, rfl⟩)) with hmem | hmem
  · obtain ⟨⟨time, _⟩, hd, rfl⟩ := List.mem_map.mp hmem
    exact ⟨time, hd⟩
  · exact absurd (htimer.le_of_isOver hover) (Nat.not_le.mpr (hidle _ hmem))

end Honours

/-! ### The counters of reminders -/

section Counts

variable {σ : Type} [Backend σ] [Faithful σ] {calls : List Call} {w : World σ} (now : Instant)

end Counts

section Runs

variable {σ : Type} [Backend σ]

end Runs

end World

end Companion
