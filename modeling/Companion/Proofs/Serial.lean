import Companion.Proofs.GrantOrder

/-!
Calls side by side do what calls one after the other do. As long as no load and no save fails, what
lies in the slot of a record is what the saved changes make of what lay there at first, one after
the other in the order in which the lock of the record was granted.
-/

namespace Companion

open Number Text Time

/-! ### Slots that hold no record -/

theorem Store.recordIn_unreadable {R : Type} [Record R] [Record.Steady R]
    {settings : RecordSettings} {now : Instant} {id : Int64} {data : Octets}
    (h : ¬ (Record.kind R).Holds data) :
    recordIn R settings now id (some data) = recordIn R settings now id none := by
  unfold recordIn
  dsimp only
  cases hread : (Record.decode now data : Except Json.Fault R) with
  | ok r => exact absurd (Record.holds_of_decode hread) h
  | error f => rfl

/-- Octets that hold no record are as good as none to a job, and it saves a record over either. -/
theorem Entry.mutate_unreadable {rules : Rules} {e : Entry} {data : Octets}
    (h : ¬ e.job.key.kind.Holds data)
    (hanswer : ∀ event, e.job = .reply event → e.given.answer ≠ none) :
    e.mutate rules (some data) = e.mutate rules none := by
  obtain ⟨i, job, g⟩ := e
  cases job with
  | editUser id change =>
    simp only [mutate, Rules.result, Rules.userIn, Unsaved.store]
    rw [Store.recordIn_unreadable h]
  | editGroup id change =>
    simp only [mutate, Rules.result, Rules.groupIn, Unsaved.store]
    rw [Store.recordIn_unreadable h]
  | syncName event =>
    simp only [mutate, Rules.result, Rules.userIn]
    rw [Store.recordIn_unreadable h]
    simp [nameTold, Store.recordIn, LoadState.isCreated, Unsaved.store]
  | reply event =>
    cases hg : g.answer with
    | none => exact absurd hg (hanswer event rfl)
    | some answer =>
      simp only [mutate, Rules.result, hg, Rules.userIn, Unsaved.store]
      rw [Store.recordIn_unreadable h]

/-! ### What is left to be done -/

def Caller.left (c : Caller) : List Job :=
  match c.errand.stage with
  | .saved _ => c.errand.jobs.tail
  | _ => c.errand.jobs

theorem Caller.left_saved {c : Caller} {ticket : Nat} (h : c.errand.stage = .saved ticket) :
    c.left = c.errand.jobs.tail := by
  simp only [left, h]

theorem Caller.left_unsaved {c : Caller} (h : ∀ ticket, c.errand.stage ≠ .saved ticket) :
    c.left = c.errand.jobs := by
  unfold left
  split
  · next ticket hstage => exact absurd hstage (h ticket)
  · rfl

/-- What a job was given came from the moves of a run: it loaded its record at a step of its caller,
and the model answered the caller what it was answered. -/
def Given.Came (run : List (Instant × World.Move)) (i : Nat) (g : Given) : Prop :=
  (g.opened, .step i) ∈ run ∧
    ∀ t generated, g.answer = some (t, generated) → (t, .answer i generated) ∈ run

theorem Given.Came.mono {run later : List (Instant × World.Move)} {i : Nat} {g : Given}
    (h : g.Came run i) : g.Came (run ++ later) i :=
  ⟨List.mem_append_left _ h.1, fun t generated hg => List.mem_append_left _ (h.2 t generated hg)⟩

namespace World

variable {σ : Type} {w w' : World σ}

def savedBy (i : Nat) (w : World σ) : List Entry := w.journal.filter (·.caller = i)

def leftOf (i : Nat) (w : World σ) : List Job := (w.callers[i]?).elim [] Caller.left

/-- Every caller has saved the changes of its first jobs, in their order and each once, and has the
others left. All that went into a change came from the run. -/
structure Accounts (jobs : Nat → List Job) (run : List (Instant × Move)) (w : World σ) : Prop where
  done : ∀ i, jobs i = (w.savedBy i).map Entry.job ++ w.leftOf i
  given : ∀ {i : Nat} {c : Caller} {g : Given}, w.callers[i]? = some c → c.given = some g →
    g.Came run i
  entries : ∀ e ∈ w.journal, e.given.Came run e.caller ∧
    ∀ event, e.job = .reply event → e.given.answer ≠ none

theorem leftOf_of {i : Nat} {c : Caller} (hc : w.callers[i]? = some c) : w.leftOf i = c.left := by
  rw [leftOf, hc, Option.elim_some]

section Accounts

variable {jobs : Nat → List Job} {run : List (Instant × Move)} {i : Nat} {c c' : Caller}
  {m : Instant × Move}

/-- A move at which nothing is saved and no job is done. -/
theorem Accounts.quiet (h : w.Accounts jobs run) (hc : w.callers[i]? = some c)
    (hcallers : w'.callers = w.callers.set i c') (hjournal : w'.journal = w.journal)
    (hleft : c'.left = c.left) (hgiven : ∀ g, c'.given = some g → g.Came (run ++ [m]) i) :
    w'.Accounts jobs (run ++ [m]) where
  done j := by
    have hsaved : w'.savedBy j = w.savedBy j := congrArg (List.filter _) hjournal
    rw [hsaved, h.done j]
    by_cases hji : j = i
    · subst hji
      rw [leftOf_of hc, leftOf_of (get_moved hc hcallers), hleft]
    · rw [leftOf, leftOf, get_others hcallers hji]
  given := by
    intro j d g hd hg
    by_cases hji : j = i
    · subst hji
      obtain rfl := Option.some.inj (hd.symm.trans (get_moved hc hcallers))
      exact hgiven g hg
    · exact (h.given ((get_others hcallers hji).symm.trans hd) hg).mono
  entries e he := by
    rw [hjournal] at he
    exact ⟨(h.entries e he).1.mono, (h.entries e he).2⟩

theorem Accounts.mono (h : w.Accounts jobs run) : w.Accounts jobs (run ++ [m]) where
  done := h.done
  given hc hg := (h.given hc hg).mono
  entries e he := ⟨(h.entries e he).1.mono, (h.entries e he).2⟩

/-- A move at which a caller saves the change of its first job. -/
theorem Accounts.saves (h : w.Accounts jobs run) (hc : w.callers[i]? = some c)
    (hcallers : w'.callers = w.callers.set i c') {job : Job} {g : Given}
    (hjournal : w'.journal = w.journal ++ [⟨i, job, g⟩]) (hleft : c.left = job :: c'.left)
    (hgiven : c'.given = c.given) (hg : c.given = some g)
    (hanswer : ∀ event, job = .reply event → g.answer ≠ none) :
    w'.Accounts jobs (run ++ [m]) where
  done j := by
    rw [h.done j]
    by_cases hji : j = i
    · subst hji
      have hsaved : w'.savedBy j = w.savedBy j ++ [⟨j, job, g⟩] := by
        simp [savedBy, hjournal]
      rw [leftOf_of hc, leftOf_of (get_moved hc hcallers), hsaved, hleft]
      simp
    · have hsaved : w'.savedBy j = w.savedBy j := by
        simp [savedBy, hjournal, Ne.symm hji]
      rw [hsaved, leftOf, leftOf, get_others hcallers hji]
  given := by
    intro j d g' hd hg'
    by_cases hji : j = i
    · subst hji
      obtain rfl := Option.some.inj (hd.symm.trans (get_moved hc hcallers))
      exact (h.given hc (hgiven.symm.trans hg')).mono
    · exact (h.given ((get_others hcallers hji).symm.trans hd) hg').mono
  entries e he := by
    rw [hjournal] at he
    rcases List.mem_append.mp he with he | he
    · exact ⟨(h.entries e he).1.mono, (h.entries e he).2⟩
    · obtain rfl := List.mem_singleton.mp he
      exact ⟨(h.given hc hg).mono, hanswer⟩

end Accounts

/-! ### Slots -/

def IsOpen (key : LockKey) (w : World σ) : Prop :=
  ∃ (i : Nat) (c : Caller) (job : Job) (rest : List Job) (ticket : Nat),
    w.callers[i]? = some c ∧ c.errand.jobs = job :: rest ∧ job.key = key ∧
      c.errand.stage.IsOpen ticket

/-- What the changes saved in a record make of what lay in its slot at first, one after the other. -/
def replayed (rules : Rules) (key : LockKey) (initial : Option Octets) (w : World σ) :
    Option Octets :=
  (w.changesOf key).foldl (fun slot e => e.mutate rules slot) initial

theorem replayed_append {rules : Rules} {key : LockKey} {initial : Option Octets} {e : Entry}
    (hjournal : w'.journal = w.journal ++ [e]) : w'.replayed rules key initial =
      if e.job.key = key then e.mutate rules (w.replayed rules key initial)
      else w.replayed rules key initial := by
  unfold replayed changesOf
  by_cases hkey : e.job.key = key
  · simp [hjournal, hkey]
  · simp [hjournal, hkey]

theorem replayed_same {rules : Rules} {key : LockKey} {initial : Option Octets}
    (hjournal : w'.journal = w.journal) :
    w'.replayed rules key initial = w.replayed rules key initial := by
  unfold replayed changesOf
  rw [hjournal]

variable [Backend σ] [Faithful σ] {rules : Rules} {failing : Prop} {jobs : Nat → List Job}
  {run : List (Instant × Move)}

theorem Accounts.step (h : w.Accounts jobs run) (hsound : w.Sound rules failing) (now : Instant)
    (i : Nat) : (w.step now i).Accounts jobs (run ++ [(now, .step i)]) := by
  rcases w.step_cases now i with hsame | ⟨c, c', a, entries, hc, hstep, hturn⟩
  · rw [hsame]
    exact h.mono
  · rw [hturn]
    have hgiven : ∀ g, c.given = some g → g.Came (run ++ [(now, .step i)]) i := fun g hg =>
      (h.given hc hg).mono
    cases hstep with
    | requests hjobs hstage =>
      refine h.quiet hc rfl (List.append_nil _) ?_ hgiven
      rw [Caller.left_unsaved fun t ht => Stage.noConfusion (hstage.symm.trans ht)]
      exact Caller.left_unsaved fun _ ht => Stage.noConfusion ht
    | notices hjobs hstage hheld =>
      refine h.quiet hc rfl (List.append_nil _) ?_ hgiven
      rw [Caller.left_unsaved fun t ht => Stage.noConfusion (hstage.symm.trans ht)]
      exact Caller.left_unsaved fun _ ht => Stage.noConfusion ht
    | @loads job rest ticket hjobs hstage =>
      have hstart : Errand.Started now ticket job True w.agent _ _ :=
        started_start job (.inl trivial)
      refine h.quiet hc rfl (List.append_nil _) ?_ fun g hg => ?_
      · rw [Caller.left_unsaved fun t ht => Stage.noConfusion (hstage.symm.trans ht)]
        exact Caller.left_unsaved hstart.isOpen.ne_saved
      · obtain rfl := Option.some.inj hg
        exact ⟨List.mem_append_right _ (List.mem_singleton.mpr rfl), fun _ _ h =>
          absurd h.symm (Option.some_ne_none _)⟩
    | saves hjobs hstage =>
      obtain ⟨_, g, hg, hanswer, _⟩ := hsound.unsaved_cases hc hjobs hstage
      refine h.saves hc rfl (by rw [turned, hg]; rfl) ?_ rfl hg hanswer
      rw [Caller.left_unsaved (fun t ht => Stage.noConfusion (hstage.symm.trans ht)), hjobs]
      refine congrArg (List.cons _) (Eq.symm ?_)
      exact (Caller.left_saved (by rfl)).trans (congrArg List.tail hjobs)
    | finishes hjobs hstage =>
      refine h.quiet hc rfl (List.append_nil _) ?_ hgiven
      rw [Caller.left_saved hstage, hjobs]
      exact Caller.left_unsaved fun _ ht => Stage.noConfusion ht

theorem Accounts.move (h : w.Accounts jobs run) (hsound : w.Sound rules failing)
    (m : Instant × Move) : (w.move m.1 m.2).Accounts jobs (run ++ [m]) := by
  obtain ⟨now, m⟩ := m
  cases m with
  | step i => exact h.step hsound now i
  | pass time =>
    have hmono : w.Accounts jobs (run ++ [(now, .pass time)]) := h.mono
    exact ⟨hmono.done, hmono.given, hmono.entries⟩
  | answer i generated =>
    rcases answer_cases now i generated w with hsame | ⟨c, ticket, draft, hc, hstage, hanswer⟩
    · rw [World.move, hsame]
      exact h.mono
    · rw [World.move, hanswer]
      refine h.quiet hc rfl rfl ?_ fun g hg => ?_
      · rw [Caller.left_unsaved fun t ht => Stage.noConfusion (hstage.symm.trans ht)]
        exact Caller.left_unsaved fun _ ht => Stage.noConfusion ht
      · obtain ⟨g, hc', rfl⟩ := Option.map_eq_some_iff.mp hg
        refine ⟨List.mem_append_left _ (h.given hc hc').1, fun t generated' heq => ?_⟩
        obtain ⟨rfl, rfl⟩ := Prod.mk.inj (Option.some.inj heq)
        exact List.mem_append_right _ List.mem_cons_self

/-- The slot of a record holds what the saved changes make of it, one after the other. Octets that
hold no record may have been moved aside by one who has yet to save. -/
def Settled (rules : Rules) (key : LockKey) (initial : Option Octets) (w : World σ) : Prop :=
  w.agent.content key.slot = w.replayed rules key initial ∨
    w.agent.content key.slot = none ∧ w.IsOpen key ∧
      ∃ data, w.replayed rules key initial = some data ∧ ¬ key.kind.Holds data

section Settled

variable {key : LockKey} {initial : Option Octets} {i : Nat} {c c' : Caller}

/-- A move of one caller that saves nothing leaves a slot settled that it does not change. -/
theorem Settled.quiet (h : w.Settled rules key initial) (hc : w.callers[i]? = some c)
    (hcallers : w'.callers = w.callers.set i c') (hjournal : w'.journal = w.journal)
    (hslot : w'.agent.content key.slot = w.agent.content key.slot)
    (hopen : ∀ ticket, c.errand.stage.IsOpen ticket → c'.errand.jobs = c.errand.jobs ∧
      c'.errand.stage.IsOpen ticket) : w'.Settled rules key initial := by
  unfold Settled
  rw [hslot, replayed_same hjournal]
  refine h.imp id fun ⟨hnone, ⟨j, d, job, rest, ticket, hd, hjobs, hkey, hstage⟩, hdata⟩ => ?_
  refine ⟨hnone, ?_, hdata⟩
  by_cases hji : j = i
  · subst hji
    obtain rfl := Option.some.inj (hc.symm.trans hd)
    obtain ⟨hjobs', hstage'⟩ := hopen ticket hstage
    exact ⟨j, c', job, rest, ticket, get_moved hc hcallers, hjobs'.trans hjobs, hkey, hstage'⟩
  · exact ⟨j, d, job, rest, ticket, (get_others hcallers hji).trans hd, hjobs, hkey, hstage⟩

theorem Settled.loads (h : w.Settled rules key initial) {now : Instant} {job : Job}
    {rest : List Job} {ticket : Nat} (hc : w.callers[i]? = some c)
    (hjobs : c.errand.jobs = job :: rest) (hstage : c.errand.stage = .holding ticket) :
    (w.turned i ⟨{ c.errand with stage := (Errand.start now ticket job w.agent).1 },
      some ⟨now, none⟩⟩ (Errand.start now ticket job w.agent).2 []).Settled rules key initial := by
  have hstart : Errand.Started now ticket job True w.agent _ _ := started_start job (.inl trivial)
  obtain ⟨_, hvisit, hopen, _⟩ := hstart
  generalize Errand.start now ticket job w.agent = r at hvisit hopen
  obtain ⟨stage, a⟩ := r
  dsimp only at hvisit hopen ⊢
  have hquiet : ∀ t, ¬ c.errand.stage.IsOpen t := by
    intro t
    rw [hstage]
    exact id
  by_cases hkey : key = job.key
  · subst hkey
    rcases hvisit.own with hsame | ⟨data, backup, hdata, hunread, hnone, _⟩
    · exact h.quiet hc rfl (List.append_nil _) hsame fun t ht => absurd ht (hquiet t)
    · right
      refine ⟨hnone, ⟨i, _, job, rest, ticket, get_moved hc rfl, hjobs, rfl, hopen⟩, data, ?_, hunread⟩
      rw [replayed_same (w := w) (List.append_nil _)]
      rcases h with hslot | ⟨hgone, _⟩
      · exact hslot.symm.trans hdata
      · exact nomatch hgone.symm.trans hdata
  · exact h.quiet hc rfl (List.append_nil _) (hvisit.others key hkey)
      fun t ht => absurd ht (hquiet t)

theorem Settled.saves (h : w.Settled rules key initial) (hsound : w.Sound rules False)
    {job : Job} {rest : List Job} {ticket : Nat} {unsaved : Unsaved}
    (hc : w.callers[i]? = some c) (hjobs : c.errand.jobs = job :: rest)
    (hstage : c.errand.stage = .changed ticket unsaved) (hcalm : unsaved.Saves w.agent) :
    (w.turned i ⟨{ c.errand with stage := .saved ticket }, c.given⟩ (Errand.save unsaved w.agent)
      (c.given.toList.map fun given => ⟨i, job, given⟩)).Settled rules key initial := by
  obtain ⟨hfor, g, hgiven, hanswer, hcases⟩ := hsound.unsaved_cases hc hjobs hstage
  obtain ⟨_, hresult⟩ := hcases.resolve_left fun hfailing => hfailing.1
  have hput := (save_content (a := w.agent) hfor).resolve_right fun hfailed => hfailed.1 hcalm
  generalize Errand.save unsaved w.agent = a at hput
  have hjournal : (w.turned i ⟨{ c.errand with stage := .saved ticket }, c.given⟩ a
      (c.given.toList.map fun given => ⟨i, job, given⟩)).journal = w.journal ++ [⟨i, job, g⟩] := by
    rw [turned, hgiven]
    rfl
  unfold Settled
  rw [replayed_append hjournal]
  by_cases hkey : job.key = key
  · subst hkey
    left
    have hslot : a.content job.key.slot =
        Entry.mutate rules ⟨i, job, g⟩ (w.agent.content job.key.slot) := by
      rw [hput, Function.update_self, hresult]
      rfl
    rw [if_pos rfl]
    refine hslot.trans ?_
    rcases h with hsettled | ⟨hnone, _, data, hdata, hunread⟩
    · rw [hsettled]
    · rw [hnone, hdata]
      exact (Entry.mutate_unreadable (e := ⟨i, job, g⟩) hunread hanswer).symm
  · have hslot : a.content key.slot = w.agent.content key.slot := by
      rw [hput]
      exact Function.update_of_ne (fun heq => hkey (LockKey.slot_injective heq).symm) _ _
    rw [if_neg hkey]
    refine h.imp hslot.trans ?_
    rintro ⟨hnone, ⟨j, d, x, rest', t, hd, hx, hxkey, hopen⟩, hdata⟩
    refine ⟨hslot.trans hnone, ⟨j, d, x, rest', t, (get_others rfl ?_).trans hd, hx, hxkey, hopen⟩,
      hdata⟩
    rintro rfl
    obtain rfl := Option.some.inj (hc.symm.trans hd)
    obtain ⟨rfl, _⟩ := List.cons.inj (hjobs.symm.trans hx)
    exact hkey hxkey

theorem Settled.step (h : w.Settled rules key initial) (hsound : w.Sound rules False)
    {now : Instant} {i : Nat} (hcalm : ∀ c, w.callers[i]? = some c → Unhindered now w.agent c) :
    (w.step now i).Settled rules key initial := by
  rcases w.step_cases now i with hsame | ⟨c, c', a, entries, hc, hstep, hturn⟩
  · rw [hsame]
    exact h
  · rw [hturn]
    cases hstep with
    | requests hjobs hstage =>
      refine h.quiet hc rfl (List.append_nil _) rfl fun t ht => ?_
      rw [hstage] at ht
      exact absurd ht id
    | notices hjobs hstage hheld =>
      refine h.quiet hc rfl (List.append_nil _) rfl fun t ht => ?_
      rw [hstage] at ht
      exact absurd ht id
    | loads hjobs hstage => exact h.loads hc hjobs hstage
    | saves hjobs hstage =>
      have hunhindered := hcalm c hc
      rw [Unhindered, hjobs, hstage] at hunhindered
      exact h.saves hsound hc hjobs hstage hunhindered
    | finishes hjobs hstage =>
      refine h.quiet hc rfl (List.append_nil _) rfl fun t ht => ?_
      rw [hstage] at ht
      exact absurd ht id

theorem Settled.move (h : w.Settled rules key initial) (hsound : w.Sound rules False)
    {m : Instant × Move} (hcalm : w.Calm m) : (w.move m.1 m.2).Settled rules key initial := by
  obtain ⟨now, m⟩ := m
  cases m with
  | step i => exact h.step hsound hcalm
  | pass time => exact h
  | answer i generated =>
    rcases answer_cases now i generated w with hsame | ⟨c, ticket, draft, hc, hstage, hanswer⟩
    · rw [World.move, hsame]
      exact h
    · obtain ⟨_, hcontent⟩ := finishReply_keeps w.agent now draft generated
      rw [World.move, hanswer]
      refine h.quiet hc rfl rfl (congrFun hcontent key.slot) fun t ht => ⟨rfl, ?_⟩
      rw [hstage] at ht
      exact ht

end Settled

/-! ### Runs -/

omit [Faithful σ] in
def Calmly (w : World σ) : List (Instant × Move) → Prop
  | [] => True
  | m :: run => w.Calm m ∧ Calmly (w.move m.1 m.2) run

omit [Backend σ] [Faithful σ] in
def Done (w : World σ) : Prop :=
  ∀ {i : Nat} {c : Caller}, w.callers[i]? = some c → c.errand.jobs = []

end World

/-! ### Memory never fails -/

theorem Store.getOrCreate_memory (R : Type) [Record R] (now : Instant) (id : Int64)
    (s : Store Memory) : (s.getOrCreate R now id).1.state ≠ .readFailed := by
  have hfetch : s.fetch R now id = match s.slots.get? (address R id) with
      | none => (.ok none, s)
      | some data => ((decodeSlot R now (address R id).key data).map some, s) := by
    unfold fetch
    cases hslot : s.slots.get? (address R id) <;> simp [call, Backend.read, Memory.read, hslot]
  have hmoved : (s.quarantine R now id).1 = true := by
    unfold quarantine
    cases hslot : s.slots.get? (address R id) <;>
      simp [call, Backend.quarantine, moveAside, Memory.read, Memory.write, Memory.remove, hslot]
  unfold getOrCreate
  rw [hfetch]
  cases s.slots.get? (address R id) with
  | none => exact LoadState.noConfusion
  | some data =>
    dsimp only [decodeSlot]
    cases (Record.decode now data : Except Json.Fault R) with
    | ok record => exact LoadState.noConfusion
    | error f =>
      dsimp only [Except.mapError, Except.map, settle]
      generalize s.quarantine R now id = r at hmoved
      obtain ⟨moved, t⟩ := r
      obtain rfl : moved = true := hmoved
      exact LoadState.noConfusion

namespace World

/-- Every run on memory is calm. -/
theorem calmly_memory (w : World Memory) (run : List (Instant × Move)) : w.Calmly run := by
  induction run generalizing w with
  | nil => trivial
  | cons m run ih =>
    refine ⟨?_, ih _⟩
    obtain ⟨now, m⟩ := m
    cases m with
    | answer i generated => trivial
    | pass time => trivial
    | step i =>
      intro c _
      unfold Unhindered
      split
      · unfold Job.loadState
        split <;> exact Store.getOrCreate_memory _ _ _ _
      · next _ unsaved _ =>
        cases unsaved with
        | nothing => trivial
        | user r => exact Store.writes_memory r _
        | group r => exact Store.writes_memory r _
      · trivial

end World

/-! ### The order of changes is that of locks -/

namespace World

variable {σ : Type} {w : World σ} [Backend σ] [Faithful σ] {rules : Rules}
  {jobs : Nat → List Job} {run : List (Instant × Move)}

/-- What every move of a calm run keeps: the order of locks and changes, slots that hold what the
changes make of them, and what each caller has done and left. -/
structure Serial (rules : Rules) (initial : SlotContents) (jobs : Nat → List Job)
    (run : List (Instant × Move)) (w : World σ) : Prop where
  sound : w.Sound rules False
  ordered : ∀ key, w.Ordered key
  settled : ∀ key, w.Settled rules key (initial key.slot)
  accounts : w.Accounts jobs run

variable {initial : SlotContents}

theorem Serial.move (h : w.Serial rules initial jobs run) {m : Instant × Move} (hcalm : w.Calm m) :
    (w.move m.1 m.2).Serial rules initial jobs (run ++ [m]) where
  sound := h.sound.move (.inr hcalm)
  ordered key := (h.ordered key).advances (h.sound.advances_move m.1 m.2)
  settled key := (h.settled key).move h.sound hcalm
  accounts := h.accounts.move h.sound m

theorem Serial.after (h : w.Serial rules initial jobs run) {later : List (Instant × Move)}
    (hcalm : w.Calmly later) : (w.after later).Serial rules initial jobs (run ++ later) := by
  induction later generalizing w run with
  | nil =>
    rw [List.append_nil]
    exact h
  | cons m later ih =>
    obtain ⟨hm, hlater⟩ := hcalm
    have hnext := ih (h.move hm) hlater
    rw [List.append_assoc] at hnext
    exact hnext

def jobsOf (settings : RecordSettings) (calls : List Call) (i : Nat) : List Job :=
  (calls[i]?).elim [] fun call => (call.errand settings).jobs

theorem serial_start {agent : Agent σ} {calls : List Call} (hlocks : agent.locks = {})
    (husers : Store.Keyed UserRecord agent.content)
    (hgroups : Store.Keyed GroupRecord agent.content) :
    (start agent calls).Serial agent.rules agent.content (jobsOf agent.store.settings calls) [] where
  sound := sound_start hlocks husers hgroups
  ordered key := by
    refine .inl ⟨rfl, fun i job hi => ?_⟩
    obtain ⟨c, hc, hci⟩ := Option.bind_eq_some_iff.mp hi
    obtain ⟨call, _, rfl⟩ := List.mem_map.mp (List.mem_of_getElem? hc)
    have hnone := Caller.pending?_eq_some hci
    rw [Caller.granted?_ready (call.stage_errand _)] at hnone
    exact nomatch hnone
  settled key := .inl rfl
  accounts := by
    refine ⟨fun i => ?_, fun {i c g} hc hg => ?_, fun e he => absurd he List.not_mem_nil⟩
    · have hleft : (start agent calls).leftOf i = jobsOf agent.store.settings calls i := by
        unfold leftOf jobsOf start
        rw [List.getElem?_map]
        cases calls[i]? with
        | none => rfl
        | some call => exact Caller.left_unsaved fun t ht =>
          Stage.noConfusion ((call.stage_errand _).symm.trans ht)
      rw [hleft]
      rfl
    · obtain ⟨call, _, rfl⟩ := List.mem_map.mp (List.mem_of_getElem? hc)
      exact nomatch hg

/-- However the steps of calls are interleaved, once all calls are done and no backend call failed,
the lock of a record was granted to exactly those that saved a change in it, in that order, and its
slot holds what these changes make of what lay there at first, one after the other. Each call has
saved the changes of all its jobs, each once and in their order, every one made with what the model
answered that call. -/
theorem no_update_lost (agent : Agent σ) (calls : List Call) (hlocks : agent.locks = {})
    (husers : Store.Keyed UserRecord agent.content)
    (hgroups : Store.Keyed GroupRecord agent.content) (run : List (Instant × Move))
    (hcalm : (start agent calls).Calmly run) (hdone : ((start agent calls).after run).Done) :
    let w := (start agent calls).after run
    (∀ key : LockKey, w.grantsOf key = (w.changesOf key).map Entry.origin ∧
      w.agent.content key.slot = (w.changesOf key).foldl (fun slot e => e.mutate agent.rules slot)
        (agent.content key.slot)) ∧
    (∀ i, (w.savedBy i).map Entry.job = jobsOf agent.store.settings calls i) ∧
    ∀ e ∈ w.journal, e.given.Came run e.caller ∧
      ∀ event, e.job = .reply event → e.given.answer ≠ none := by
  have h := (serial_start hlocks husers hgroups).after hcalm
  generalize (start agent calls).after run = w at h hdone
  refine ⟨fun key => ⟨?_, ?_⟩, fun i => ?_, h.accounts.entries⟩
  · rcases h.ordered key with ⟨heq, _⟩ | ⟨i, job, hi, _⟩
    · exact heq
    · obtain ⟨c, hc, hci⟩ := Option.bind_eq_some_iff.mp hi
      obtain ⟨_, _, _, hjobs, _⟩ :=
        ((h.sound.fits hc).granted?_eq_some h.sound.locked).mp (Caller.pending?_eq_some hci)
      exact nomatch (hdone hc).symm.trans hjobs
  · rcases h.settled key with heq | ⟨_, ⟨i, c, job, rest, _, hc, hjobs, _⟩, _⟩
    · exact heq
    · exact nomatch (hdone hc).symm.trans hjobs
  · have hleft : w.leftOf i = [] := by
      unfold leftOf
      cases hc : w.callers[i]? with
      | none => rfl
      | some c =>
        have hready := (h.sound.fits hc).idle (hdone hc)
        exact (Caller.left_unsaved fun t ht => Stage.noConfusion (hready.symm.trans ht)).trans (hdone hc)
    have hall := h.accounts.done i
    rw [hleft, List.append_nil] at hall
    exact hall.symm

def dawn : Instant := ⟨epoch, 0, 0, isMoment_zero⟩

def emptyAgent : Agent Memory := { store := { slots := Table.empty } }

/-- One call that touches a record, and a message of the same user. -/
def contenders : List Call :=
  [.updateUser 7 ⟨fun now user => { user with lastInteraction := now }, fun _ _ => rfl⟩,
    .message dawn (.ofPrivate 7 "Ada" "hello")]

/-- A run in which the message has to wait for the lock. -/
def contention : List (Instant × Move) :=
  [.step 0, .step 1, .step 0, .step 0, .step 0, .step 0, .step 1, .step 1,
    .answer 1 (.ok "Noted. [UPDATE: \x7b\"color\":\"green\"\x7d]"), .step 1, .step 1].map (dawn, ·)

/-- Neither of two calls for one record loses its change. -/
theorem no_update_lost_contended :
    let w := (start emptyAgent contenders).after contention
    w.grantsOf ⟨.user, 7⟩ = (w.changesOf ⟨.user, 7⟩).map Entry.origin ∧
      (w.savedBy 1).map Entry.job = [.reply (.ofPrivate 7 "Ada" "hello")] := by
  have hall : ((start emptyAgent contenders).after contention).callers.all
      (·.errand.jobs.isEmpty) = true := by decide +kernel
  have hdone : ((start emptyAgent contenders).after contention).Done := by
    intro i c hc
    exact List.isEmpty_iff.mp (List.all_eq_true.mp hall c (List.mem_of_getElem? hc))
  have hempty : ∀ slot, emptyAgent.content slot = none := Table.get?_empty
  obtain ⟨hkeys, hjobs, _⟩ := no_update_lost emptyAgent contenders rfl
    (fun id _ _ _ h => nomatch (hempty _).symm.trans h)
    (fun id _ _ _ h => nomatch (hempty _).symm.trans h) contention (calmly_memory _ _) hdone
  exact ⟨(hkeys _).1, hjobs 1⟩

end World

end Companion
