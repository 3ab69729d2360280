import Companion.Proofs.Exclusion

/-!
The order in which locks are granted and changes are saved. The lock of a record is granted to those
who save a change in it, in the order of their changes, and to nobody else but one who has the lock
and has not saved yet. Every move of a world keeps to this.
-/

namespace Companion

open Number Text Time

/-! ### The locks that callers have -/

section Granted

variable {rules : Rules} {failing : Prop} {locks : LockTable} {content : SlotContents} {c : Caller}

/-- A caller has a lock for its first job if its claim has the mutex. -/
theorem Caller.Fits.granted?_eq_some (hlocks : locks.Sound)
    (h : c.Fits rules failing locks content) {job : Job} :
    c.granted? locks = some job ↔ ∃ rest t s, c.errand.jobs = job :: rest ∧
      c.errand.stage.ticket? = some t ∧ locks.Holds t job.key s ∧ s.hasMutex = true := by
  unfold Caller.granted?
  cases hjobs : c.errand.jobs with
  | nil => simp
  | cons first rest =>
    cases hticket : c.errand.stage.ticket? with
    | none => simp
    | some t =>
      obtain ⟨job', rest', s, hjobs', hs⟩ := h.holds hticket
      obtain ⟨rfl, rfl⟩ := List.cons.inj (hjobs.symm.trans hjobs')
      have hmutex := hlocks.hasMutex_iff hs
      dsimp only
      rw [hmutex]
      constructor
      · intro hif
        split at hif
        · next htrue =>
          obtain rfl := Option.some.inj hif
          exact ⟨rest, t, s, rfl, rfl, hs, htrue⟩
        · exact nomatch hif
      · rintro ⟨_, t', s', hcons, ht, hs', htrue⟩
        obtain rfl := Option.some.inj ht
        obtain ⟨rfl, rfl⟩ := List.cons.inj hcons
        rw [← hmutex, hlocks.hasMutex_iff hs', htrue]
        rfl

end Granted

theorem filterMap_eq_singleton {α β : Type} {f : α → Option β} {l : List α} (hl : l.Nodup) {a : α}
    {b : β} (ha : a ∈ l) (hb : f a = some b) (hothers : ∀ x ∈ l, x ≠ a → f x = none) :
    l.filterMap f = [b] := by
  induction l with
  | nil => exact nomatch ha
  | cons x l ih =>
    obtain ⟨hx, hl⟩ := List.nodup_cons.mp hl
    rcases List.mem_cons.mp ha with rfl | ha
    · rw [List.filterMap_cons_some hb]
      have hnone : l.filterMap f = [] := by
        rw [List.filterMap_eq_nil_iff]
        intro y hy
        refine hothers y (List.mem_cons_of_mem _ hy) ?_
        rintro rfl
        exact hx hy
      rw [hnone]
    · have hxa : x ≠ a := by
        rintro rfl
        exact hx ha
      rw [List.filterMap_cons_none (hothers x List.mem_cons_self hxa)]
      exact ih hl ha fun y hy => hothers y (List.mem_cons_of_mem _ hy)

namespace World

variable {σ : Type} {w w' : World σ}

theorem newGrants_eq_nil (h : ∀ j job, w'.granted? j = some job → w.granted? j ≠ none) :
    w.newGrants w' = [] := by
  unfold newGrants
  rw [List.filterMap_eq_nil_iff]
  intro j _
  split
  · rfl
  · next hnone =>
    cases hj : w'.granted? j with
    | none => rfl
    | some job =>
      have hbefore := h j job hj
      cases hw : w.granted? j with
      | none => exact absurd hw hbefore
      | some _ => simp [hw] at hnone

theorem newGrants_eq_singleton {j : Nat} {job : Job} (hafter : w'.granted? j = some job)
    (hbefore : w.granted? j = none)
    (hothers : ∀ k, k ≠ j → ∀ job, w'.granted? k = some job → w.granted? k ≠ none) :
    w.newGrants w' = [(j, job)] := by
  have hj : j < w'.callers.length := by
    cases hc : w'.callers[j]? with
    | none => simp [granted?, hc] at hafter
    | some c => exact (List.getElem?_eq_some_iff.mp hc).1
  refine filterMap_eq_singleton List.nodup_range (List.mem_range.mpr hj) ?_ ?_
  · rw [hbefore, hafter]
    rfl
  · intro k _ hk
    split
    · rfl
    · next hnone =>
      cases hafter' : w'.granted? k with
      | none => rfl
      | some job' =>
        have hhad := hothers k hk job' hafter'
        cases hw : w.granted? k with
        | none => exact absurd hw hhad
        | some _ => simp [hw] at hnone

end World

/-! ### The order of locks and changes -/

/-- The job for which a caller has a lock under which it has not saved yet. -/
def Caller.pending? (locks : LockTable) (c : Caller) : Option Job :=
  match c.errand.stage with
  | .saved _ => none
  | _ => c.granted? locks

def Entry.origin (e : Entry) : Nat × Job := (e.caller, e.job)

namespace World

variable {σ : Type} {w w' : World σ}

def pending? (w : World σ) (i : Nat) : Option Job :=
  (w.callers[i]?).bind (·.pending? w.agent.locks)

def grantsOf (key : LockKey) (w : World σ) : List (Nat × Job) := w.grants.filter (·.2.key = key)

def changesOf (key : LockKey) (w : World σ) : List Entry := w.journal.filter (·.job.key = key)

/-- The lock of a record was granted to those who saved changes in it, in their order, and to nobody
else but one who has it and has not saved yet. -/
def Ordered (w : World σ) (key : LockKey) : Prop :=
  (w.grantsOf key = (w.changesOf key).map Entry.origin ∧
    ∀ i job, w.pending? i = some job → job.key ≠ key) ∨
  ∃ i job, w.pending? i = some job ∧ job.key = key ∧
    w.grantsOf key = (w.changesOf key).map Entry.origin ++ [(i, job)]

/-- What a move does to the order of locks and changes: nothing, or a lock is granted that nobody
had, or the change of one who had its lock is saved. -/
inductive Advances (w w' : World σ) : Prop
  | same (hgrants : w'.grants = w.grants) (hjournal : w'.journal = w.journal)
      (hpending : ∀ j, w'.pending? j = w.pending? j)
  | grants (i : Nat) (job : Job) (hgrants : w'.grants = w.grants ++ [(i, job)])
      (hjournal : w'.journal = w.journal) (hi : w'.pending? i = some job)
      (hothers : ∀ j, j ≠ i → w'.pending? j = w.pending? j) (hnone : w.pending? i = none)
      (hfree : ∀ j x, w.pending? j = some x → x.key ≠ job.key)
  | saves (e : Entry) (hgrants : w'.grants = w.grants) (hjournal : w'.journal = w.journal ++ [e])
      (hi : w.pending? e.caller = some e.job) (hnone : w'.pending? e.caller = none)
      (hothers : ∀ j, j ≠ e.caller → w'.pending? j = w.pending? j)
      (halone : ∀ j x, w.pending? j = some x → x.key = e.job.key → j = e.caller)

/-- What is granted and saved for other records leaves the order for this one. -/
theorem Ordered.elsewhere {key : LockKey} {i : Nat} (h : w.Ordered key)
    (hgrants : w'.grantsOf key = w.grantsOf key) (hchanges : w'.changesOf key = w.changesOf key)
    (hothers : ∀ j, j ≠ i → w'.pending? j = w.pending? j)
    (hbefore : ∀ x, w.pending? i = some x → x.key ≠ key)
    (hafter : ∀ x, w'.pending? i = some x → x.key ≠ key) : w'.Ordered key := by
  rcases h with ⟨heq, hidle⟩ | ⟨j, x, hj, hx, heq⟩
  · left
    refine ⟨by rw [hgrants, heq, hchanges], ?_⟩
    intro j x hj
    by_cases hji : j = i
    · subst hji
      exact hafter x hj
    · exact hidle j x (hothers j hji ▸ hj)
  · right
    have hji : j ≠ i := by
      intro hji
      subst hji
      exact hbefore x hj hx
    exact ⟨j, x, (hothers j hji).trans hj, hx, by rw [hgrants, heq, hchanges]⟩

theorem Ordered.advances {key : LockKey} (h : w.Ordered key) (hstep : w.Advances w') :
    w'.Ordered key := by
  cases hstep with
  | same hgrants hjournal hpending =>
    unfold Ordered grantsOf changesOf
    simp only [hgrants, hjournal, hpending]
    exact h
  | grants i job hgrants hjournal hi hothers hnone hfree =>
    have hchanges : w'.changesOf key = w.changesOf key := congrArg (List.filter _) hjournal
    by_cases hkey : job.key = key
    · right
      refine ⟨i, job, hi, hkey, ?_⟩
      have hgrown : w'.grantsOf key = w.grantsOf key ++ [(i, job)] := by
        simp [grantsOf, hgrants, hkey]
      rcases h with ⟨heq, _⟩ | ⟨j, x, hj, hx, _⟩
      · rw [hgrown, heq, hchanges]
      · exact absurd (hx.trans hkey.symm) (hfree j x hj)
    · have hkept : w'.grantsOf key = w.grantsOf key := by
        simp [grantsOf, hgrants, hkey]
      apply h.elsewhere hkept hchanges hothers
      · intro x hx
        cases hx.symm.trans hnone
      · intro x hx
        exact Option.some.inj (hi.symm.trans hx) ▸ hkey
  | saves e hgrants hjournal hi hnone hothers halone =>
    have hkept : w'.grantsOf key = w.grantsOf key := congrArg (List.filter _) hgrants
    by_cases hkey : e.job.key = key
    · have hgrown : (w'.changesOf key).map Entry.origin =
          (w.changesOf key).map Entry.origin ++ [e.origin] := by
        simp [changesOf, hjournal, hkey]
      rcases h with ⟨_, hidle⟩ | ⟨j, x, hj, hx, heq⟩
      · exact absurd hkey (hidle _ _ hi)
      · left
        obtain rfl := halone j x hj (hx.trans hkey.symm)
        obtain rfl : x = e.job := Option.some.inj (hj.symm.trans hi)
        refine ⟨by rw [hkept, heq, hgrown]; rfl, ?_⟩
        intro k y hk hy
        by_cases hkj : k = e.caller
        · subst hkj
          cases hk.symm.trans hnone
        · exact hkj (halone k y (hothers k hkj ▸ hk) (hy.trans hkey.symm))
    · have hchanges : w'.changesOf key = w.changesOf key := by
        simp [changesOf, hjournal, hkey]
      apply h.elsewhere hkept hchanges hothers
      · intro x hx
        exact Option.some.inj (hi.symm.trans hx) ▸ hkey
      · intro x hx
        cases hx.symm.trans hnone

end World

theorem Caller.granted?_congr {locks locks' : LockTable} {c : Caller}
    (h : ∀ t, c.errand.stage.ticket? = some t → locks'.hasMutex t = locks.hasMutex t) :
    c.granted? locks' = c.granted? locks := by
  unfold granted?
  cases c.errand.jobs with
  | nil => rfl
  | cons job rest =>
    cases hticket : c.errand.stage.ticket? with
    | none => rfl
    | some t => simp only [h t hticket]

theorem Caller.pending?_congr {locks locks' : LockTable} {c : Caller}
    (h : ∀ t, c.errand.stage.ticket? = some t → locks'.hasMutex t = locks.hasMutex t) :
    c.pending? locks' = c.pending? locks := by
  unfold pending?
  rw [granted?_congr h]

theorem Caller.pending?_eq_some {locks : LockTable} {c : Caller} {job : Job}
    (h : c.pending? locks = some job) : c.granted? locks = some job := by
  unfold pending? at h
  split at h
  · exact nomatch h
  · exact h

namespace World

variable {σ : Type} [Backend σ] [Faithful σ] {rules : Rules} {failing : Prop} {w w' : World σ}

/-- Two callers that have the lock of one record are one. -/
theorem Sound.granted_alone (h : w.Sound rules failing) {i j : Nat} {job x : Job}
    (hi : w.granted? i = some job) (hj : w.granted? j = some x) (hkey : job.key = x.key) :
    i = j := by
  obtain ⟨c, hc, hci⟩ := Option.bind_eq_some_iff.mp hi
  obtain ⟨d, hd, hdj⟩ := Option.bind_eq_some_iff.mp hj
  obtain ⟨_, t, s, _, ht, ⟨m, hs⟩, hsm⟩ := ((h.fits hc).granted?_eq_some h.locked).mp hci
  obtain ⟨_, t', s', _, ht', ⟨m', hs'⟩, hsm'⟩ := ((h.fits hd).granted?_eq_some h.locked).mp hdj
  have hclaim := h.locked.exclusive hs hs' hkey hsm hsm'
  obtain rfl : t = t' := congrArg Claim.ticket hclaim
  exact h.apart hc hd ht ht'

omit [Backend σ] [Faithful σ] in
theorem pending?_granted? {i : Nat} {job : Job} (h : w.pending? i = some job) :
    w.granted? i = some job := by
  obtain ⟨c, hc, hci⟩ := Option.bind_eq_some_iff.mp h
  rw [granted?, hc]
  exact Caller.pending?_eq_some hci

/-- The claim of a caller that does nothing tells the same in the next world, where it is at the
same stage. -/
theorem Sound.hasMutex_eq (h : w.Sound rules failing) (hlocked : w'.agent.locks.Sound) {j : Nat}
    {d : Caller} (hd : w.callers[j]? = some d)
    (hclaims : ∀ t key s, d.errand.stage.ticket? = some t → w.agent.locks.Holds t key s →
      w'.agent.locks.Holds t key s) (t : Nat) (ht : d.errand.stage.ticket? = some t) :
    w'.agent.locks.hasMutex t = w.agent.locks.hasMutex t := by
  obtain ⟨job, _, s, _, hs⟩ := (h.fits hd).holds ht
  rw [h.locked.hasMutex_iff hs, hlocked.hasMutex_iff (hclaims t _ s ht hs)]

omit [Backend σ] [Faithful σ] in
theorem get_others {i j : Nat} {c' : Caller} (hcallers : w'.callers = w.callers.set i c')
    (hij : j ≠ i) : w'.callers[j]? = w.callers[j]? := by
  rw [hcallers, List.getElem?_set_ne (Ne.symm hij)]

/-- A caller that does nothing keeps what it has, where its claim stays at its stage. -/
theorem Sound.kept (h : w.Sound rules failing) {i j : Nat} {c' : Caller} (hij : j ≠ i)
    (hcallers : w'.callers = w.callers.set i c') (hlocked : w'.agent.locks.Sound)
    (hclaims : ∀ d t key s, w.callers[j]? = some d → d.errand.stage.ticket? = some t →
      w.agent.locks.Holds t key s → w'.agent.locks.Holds t key s) :
    w'.granted? j = w.granted? j ∧ w'.pending? j = w.pending? j := by
  have hget := get_others hcallers hij
  unfold granted? pending?
  rw [hget]
  cases hd : w.callers[j]? with
  | none => exact ⟨rfl, rfl⟩
  | some d =>
    have hmutex := h.hasMutex_eq hlocked hd fun t key s => hclaims d t key s hd
    exact ⟨Caller.granted?_congr hmutex, Caller.pending?_congr hmutex⟩

theorem Sound.kept_same (h : w.Sound rules failing) {i j : Nat} {c' : Caller} {a : Agent σ}
    {entries : List Entry} (hlocks : a.locks = w.agent.locks) (hij : j ≠ i) :
    (w.turned i c' a entries).granted? j = w.granted? j ∧
      (w.turned i c' a entries).pending? j = w.pending? j :=
  h.kept hij rfl (hlocks ▸ h.locked) fun _ _ _ _ _ _ hs => hlocks ▸ hs

omit [Backend σ] [Faithful σ] in
theorem get_moved {i : Nat} {c c' : Caller} (hc : w.callers[i]? = some c)
    (hcallers : w'.callers = w.callers.set i c') : w'.callers[i]? = some c' := by
  have hi : i < w.callers.length := (List.getElem?_eq_some_iff.mp hc).1
  rw [hcallers, List.getElem?_set_self hi]

omit [Backend σ] [Faithful σ] in
theorem grants_turned {i : Nat} {c' : Caller} {a : Agent σ} {entries : List Entry} :
    (w.turned i c' a entries).grants = w.grants ++ w.newGrants (w.turned i c' a entries) := rfl

omit [Backend σ] [Faithful σ] in
/-- A step at which no caller gets a lock and none saves leaves the order as it is. -/
theorem advances_quiet {i : Nat} {c c' : Caller} (hc : w.callers[i]? = some c)
    (hcallers : w'.callers = w.callers.set i c') (hgrants : w'.grants = w.grants ++ w.newGrants w')
    (hjournal : w'.journal = w.journal)
    (hothers : ∀ j, j ≠ i → w'.granted? j = w.granted? j ∧ w'.pending? j = w.pending? j)
    (hgranted : ∀ job, c'.granted? w'.agent.locks = some job → c.granted? w.agent.locks ≠ none)
    (hpending : c'.pending? w'.agent.locks = c.pending? w.agent.locks) : w.Advances w' := by
  have hget := get_moved hc hcallers
  have hnew : w.newGrants w' = [] := by
    refine newGrants_eq_nil fun j job hj => ?_
    by_cases hji : j = i
    · subst hji
      rw [granted?, hget] at hj
      rw [granted?, hc]
      exact hgranted job hj
    · rw [← (hothers j hji).1, hj]
      exact nofun
  refine .same ?_ hjournal fun j => ?_
  · rw [hgrants, hnew, List.append_nil]
  · by_cases hji : j = i
    · subst hji
      rw [pending?, pending?, hget, hc]
      exact hpending
    · exact (hothers j hji).2

omit [Backend σ] [Faithful σ] in
theorem pending?_eq_none {i : Nat} (h : w.granted? i = none) : w.pending? i = none := by
  cases hi : w.pending? i with
  | none => rfl
  | some job => exact nomatch h.symm.trans (pending?_granted? hi)

/-- A step at which one caller gets a lock and none saves grants a lock that nobody had. -/
theorem Sound.advances_grants (h' : w'.Sound rules failing) {j : Nat} {job : Job}
    (hgrants : w'.grants = w.grants ++ w.newGrants w') (hjournal : w'.journal = w.journal)
    (hafter : w'.pending? j = some job) (hbefore : w.granted? j = none)
    (hgranted : ∀ k, k ≠ j → ∀ x, w'.granted? k = some x → w.granted? k ≠ none)
    (hpending : ∀ k, k ≠ j → w'.pending? k = w.pending? k) : w.Advances w' := by
  have hhas := pending?_granted? hafter
  refine .grants j job ?_ hjournal hafter hpending (pending?_eq_none hbefore) fun k x hk hkey => ?_
  · rw [hgrants, newGrants_eq_singleton hhas hbefore hgranted]
  · by_cases hkj : k = j
    · subst hkj
      exact nomatch hk.symm.trans (pending?_eq_none hbefore)
    · have hkeeps := pending?_granted? ((hpending k hkj).trans hk)
      exact hkj (h'.granted_alone hkeeps hhas hkey)

end World

/-! ### The locks of one caller -/

namespace Caller

variable {locks : LockTable} {c : Caller} {job : Job} {rest : List Job} {t : Nat}

theorem granted?_ready (h : c.errand.stage = .ready) : c.granted? locks = none := by
  unfold granted?
  cases c.errand.jobs with
  | nil => rfl
  | cons job rest => rw [h]; rfl

theorem granted?_cons (hjobs : c.errand.jobs = job :: rest)
    (ht : c.errand.stage.ticket? = some t) :
    c.granted? locks = if locks.hasMutex t then some job else none := by
  simp only [granted?, hjobs, ht]

theorem granted?_restaged {c' : Caller} (hjobs : c'.errand.jobs = c.errand.jobs)
    (ht : c'.errand.stage.ticket? = c.errand.stage.ticket?) :
    c'.granted? locks = c.granted? locks := by
  simp only [granted?, hjobs, ht]

theorem pending?_saved (h : c.errand.stage = .saved t) : c.pending? locks = none := by
  simp only [pending?, h]

theorem pending?_unsaved (h : ∀ t, c.errand.stage ≠ .saved t) :
    c.pending? locks = c.granted? locks := by
  unfold pending?
  split
  · next t ht => exact absurd ht (h t)
  · rfl

end Caller

theorem Stage.IsOpen.ticket? {stage : Stage} {ticket : Nat} (h : stage.IsOpen ticket) :
    stage.ticket? = some ticket := by
  cases stage with
  | asking t draft => exact congrArg some h
  | changed t unsaved => exact congrArg some h
  | _ => exact absurd h id

theorem Stage.IsOpen.ne_saved {stage : Stage} {ticket : Nat} (h : stage.IsOpen ticket) (t : Nat) :
    stage ≠ .saved t := by
  rintro rfl
  exact h

/-! ### Steps and the order -/

namespace World

variable {σ : Type} {w w' : World σ} {i : Nat} {c c' : Caller} {job : Job} {rest : List Job}
  {ticket : Nat}

theorem granted?_of (hc : w.callers[i]? = some c) : w.granted? i = c.granted? w.agent.locks := by
  rw [granted?, hc, Option.bind_some]

theorem pending?_of (hc : w.callers[i]? = some c) : w.pending? i = c.pending? w.agent.locks := by
  rw [pending?, hc, Option.bind_some]

variable [Backend σ] [Faithful σ] {rules : Rules} {failing : Prop}

/-- A caller whose claim is in line has no lock. -/
theorem Sound.granted?_waiting (h : w.Sound rules failing) (hc : w.callers[i]? = some c)
    (ht : c.errand.stage.ticket? = some ticket) {key : LockKey}
    (hclaim : w.agent.locks.Holds ticket key .waiting) : w.granted? i = none := by
  obtain ⟨job, rest, _, hjobs, _⟩ := (h.fits hc).holds ht
  rw [granted?_of hc, Caller.granted?_cons hjobs ht, h.locked.hasMutex_iff hclaim]
  rfl

/-- A caller whose claim has the mutex has the lock for its first job. -/
theorem Sound.granted?_holding (h : w.Sound rules failing) (hc : w.callers[i]? = some c)
    (hjobs : c.errand.jobs = job :: rest) (ht : c.errand.stage.ticket? = some ticket)
    {stage : ClaimStage} (hclaim : w.agent.locks.Holds ticket job.key stage)
    (hmutex : stage.hasMutex = true) : w.granted? i = some job := by
  rw [granted?_of hc, Caller.granted?_cons hjobs ht, h.locked.hasMutex_iff hclaim, hmutex]
  rfl

theorem Sound.advances_requests (h : w.Sound rules failing) (hc : w.callers[i]? = some c)
    (hjobs : c.errand.jobs = job :: rest) (hstage : c.errand.stage = .ready) :
    w.Advances (w.turned i
      ⟨{ c.errand with stage := .waiting w.agent.locks.nextTicket }, c.given⟩
      { w.agent with locks := w.agent.locks.acquired job.key } []) := by
  obtain ⟨stage, hcases, hmem⟩ := h.locked.mem_acquired job.key
  have h' := h.requests hc hjobs []
  have hget : (w.turned i
      ⟨{ c.errand with stage := .waiting w.agent.locks.nextTicket }, c.given⟩
      { w.agent with locks := w.agent.locks.acquired job.key } []).callers[i]? = some _ :=
    get_moved hc rfl
  have hothers := fun j hj => h.kept (j := j) hj rfl h'.locked
    fun d t key s _ _ ⟨mutex, hs⟩ => ⟨mutex, (hmem _).mpr (.inr hs)⟩
  have hbefore : c.granted? w.agent.locks = none := Caller.granted?_ready hstage
  have hclaim : (w.agent.locks.acquired job.key).Holds w.agent.locks.nextTicket job.key stage :=
    ⟨_, (hmem _).mpr (.inl rfl)⟩
  rcases hcases with rfl | rfl
  · -- The new claim gets in line.
    have hafter := h'.granted?_waiting hget rfl hclaim
    rw [granted?_of hget] at hafter
    refine advances_quiet hc rfl rfl (List.append_nil _) hothers (fun x hx => nomatch hafter.symm.trans hx) ?_
    have hpending : c.pending? w.agent.locks = none :=
      (Caller.pending?_unsaved fun t ht => nomatch hstage.symm.trans ht).trans hbefore
    rw [hpending]
    exact (Caller.pending?_unsaved (by nofun)).trans hafter
  · -- The new claim has the lock at once.
    have hafter := h'.granted?_holding hget hjobs rfl hclaim rfl
    have hpending := pending?_of hget
    rw [Caller.pending?_unsaved (by nofun), ← granted?_of hget, hafter] at hpending
    refine h'.advances_grants rfl (List.append_nil _) hpending ((granted?_of hc).trans hbefore) ?_
      fun k hk => (hothers k hk).2
    intro k hk x hx
    rw [← (hothers k hk).1, hx]
    exact nofun

theorem Sound.advances_notices (h : w.Sound rules failing) (hc : w.callers[i]? = some c)
    (hstage : c.errand.stage = .waiting ticket)
    (hheld : (w.agent.locks.poll ticket).isHeld ticket = true) :
    w.Advances (w.turned i ⟨{ c.errand with stage := .holding ticket }, c.given⟩
      { w.agent with locks := w.agent.locks.poll ticket } []) := by
  have hfit := h.fits hc
  have hticket : c.errand.stage.ticket? = some ticket := by rw [hstage]; rfl
  obtain ⟨job, rest, s, hjobs, mutex, hclaim⟩ := hfit.holds hticket
  have h' := h.notices hc hstage hheld []
  have hget : (w.turned i ⟨{ c.errand with stage := .holding ticket }, c.given⟩
      { w.agent with locks := w.agent.locks.poll ticket } []).callers[i]? = some _ :=
    get_moved hc rfl
  have hmem := fun d => h.locked.mem_poll hclaim (d := d)
  dsimp only at hmem
  have hothers := fun j hj => h.kept (j := j) hj rfl h'.locked
    fun d t key s hd ht ⟨mutex, hs⟩ => ⟨mutex, (hmem _).mpr (.inr ⟨hs, fun heq =>
      hj (h.apart hd hc ht (hticket.trans (congrArg some heq.symm)))⟩)⟩
  have hnow := (h'.fits hget).claimed hjobs
  have hafter := h'.granted?_holding hget hjobs rfl hnow rfl
  -- The claim was handed the mutex before it noticed.
  have hbefore : w.granted? i = some job := by
    have hwas := hfit.claimed hjobs
    rw [hstage] at hwas
    rcases hwas with hwait | hgranted | hold
    · obtain ⟨_, hwait⟩ := hwait
      have hpolled := (h.locked.mem_poll hwait).mpr (.inl rfl)
      have hclash := h'.locked.hasMutex_iff ⟨_, hpolled⟩
      exact nomatch hclash.symm.trans (h'.locked.hasMutex_iff hnow)
    · exact h.granted?_holding hc hjobs hticket hgranted rfl
    · exact h.granted?_holding hc hjobs hticket hold rfl
  rw [granted?_of hget] at hafter
  rw [granted?_of hc] at hbefore
  refine advances_quiet hc rfl rfl (List.append_nil _) hothers (fun x _ => by rw [hbefore]; exact nofun) ?_
  have hpending : c.pending? w.agent.locks = some job :=
    (Caller.pending?_unsaved fun t ht => nomatch hstage.symm.trans ht).trans hbefore
  rw [hpending]
  exact (Caller.pending?_unsaved (by nofun)).trans hafter

theorem Sound.advances_loads (h : w.Sound rules failing) {now : Instant}
    (hc : w.callers[i]? = some c) (hstage : c.errand.stage = .holding ticket) :
    w.Advances (w.turned i ⟨{ c.errand with stage := (Errand.start now ticket job w.agent).1 },
      some ⟨now, none⟩⟩ (Errand.start now ticket job w.agent).2 []) := by
  have hticket : c.errand.stage.ticket? = some ticket := by rw [hstage]; rfl
  have hstart : Errand.Started now ticket job True w.agent _ _ := started_start job (.inl trivial)
  obtain ⟨⟨hlocks, _⟩, _, hopen, _⟩ := hstart
  generalize Errand.start now ticket job w.agent = r at hlocks hopen
  obtain ⟨stage, a⟩ := r
  dsimp only at hlocks hopen ⊢
  have hafter : (⟨{ c.errand with stage }, some ⟨now, none⟩⟩ : Caller).granted? a.locks =
      c.granted? w.agent.locks := by
    rw [hlocks]
    exact Caller.granted?_restaged rfl (hopen.ticket?.trans hticket.symm)
  refine advances_quiet hc rfl rfl (List.append_nil _) (fun j hj => h.kept_same hlocks hj)
    (fun x hx => ?_) ?_
  · exact fun hnone => nomatch hx.symm.trans (hafter.trans hnone)
  · have hpending : c.pending? w.agent.locks = c.granted? w.agent.locks :=
      Caller.pending?_unsaved fun t ht => nomatch hstage.symm.trans ht
    rw [hpending, ← hafter]
    exact Caller.pending?_unsaved hopen.ne_saved

theorem Sound.advances_saves (h : w.Sound rules failing) {unsaved : Unsaved}
    (hc : w.callers[i]? = some c) (hjobs : c.errand.jobs = job :: rest)
    (hstage : c.errand.stage = .changed ticket unsaved) :
    w.Advances (w.turned i ⟨{ c.errand with stage := .saved ticket }, c.given⟩
      (Errand.save unsaved w.agent) (c.given.toList.map fun given => ⟨i, job, given⟩)) := by
  have hticket : c.errand.stage.ticket? = some ticket := by rw [hstage]; rfl
  have hclaim := (h.fits hc).claimed hjobs
  rw [hstage] at hclaim
  obtain ⟨_, g, hgiven, _⟩ := h.unsaved_cases hc hjobs hstage
  obtain ⟨hlocks, _⟩ := save_keeps (a := w.agent) unsaved
  generalize Errand.save unsaved w.agent = a at hlocks
  have hget : (w.turned i ⟨{ c.errand with stage := .saved ticket }, c.given⟩ a
    (c.given.toList.map fun given => ⟨i, job, given⟩)).callers[i]? = some _ := get_moved hc rfl
  have hgranted := h.granted?_holding hc hjobs hticket hclaim rfl
  have hpending : w.pending? i = some job := by
    rw [pending?_of hc, Caller.pending?_unsaved (fun t ht => nomatch hstage.symm.trans ht),
      ← granted?_of hc, hgranted]
  refine .saves ⟨i, job, g⟩ ?_ ?_ hpending ?_ 
    (fun j hj => (h.kept_same hlocks hj).2) fun j x hj hkey => ?_
  · rw [grants_turned, newGrants_eq_nil, List.append_nil]
    intro j x hj
    by_cases hji : j = i
    · subst hji
      rw [hgranted]
      exact nofun
    · intro hnone
      exact nomatch hj.symm.trans ((h.kept_same hlocks hji).1.trans hnone)
  · rw [turned, hgiven]
    rfl
  · rw [pending?_of hget]
    exact Caller.pending?_saved rfl
  · exact h.granted_alone (pending?_granted? hj) hgranted hkey

theorem Sound.advances_finishes (h : w.Sound rules failing) (h' : w'.Sound rules failing)
    (hc : w.callers[i]? = some c) (hjobs : c.errand.jobs = job :: rest)
    (hstage : c.errand.stage = .saved ticket)
    (hcallers : w'.callers = w.callers.set i ⟨{ c.errand with jobs := rest, stage := .ready }, c.given⟩)
    (hlocks : w'.agent.locks = w.agent.locks.unlock ticket)
    (hgrants : w'.grants = w.grants ++ w.newGrants w') (hjournal : w'.journal = w.journal) :
    w.Advances w' := by
  have hclaim := (h.fits hc).claimed hjobs
  rw [hstage] at hclaim
  obtain ⟨mutex, hclaim⟩ := hclaim
  obtain ⟨handed, hwait, hmem⟩ := h.locked.mem_unlock hclaim rfl
  rw [← hlocks] at hmem
  have hticket : c.errand.stage.ticket? = some ticket := by rw [hstage]; rfl
  have hget := get_moved hc hcallers
  have hother : ∀ {k : Nat} {d : Caller} {t : Nat}, k ≠ i → w.callers[k]? = some d →
      d.errand.stage.ticket? = some t → t ≠ ticket := by
    intro k d t hk hd ht heq
    exact hk (h.apart hd hc ht (hticket.trans (congrArg some heq.symm)))
  have hkept := fun (k : Nat) (hk : k ≠ i)
    (hnot : ∀ d t, w.callers[k]? = some d → d.errand.stage.ticket? = some t → handed ≠ some t) =>
      h.kept hk hcallers h'.locked fun d t key s hd ht ⟨m, hs⟩ =>
        ⟨m, (hmem _).mpr ⟨_, hs, hother hk hd ht, (if_neg (hnot d t hd ht)).symm⟩⟩
  have hnone := (granted?_of hget).trans (Caller.granted?_ready rfl)
  have hidle := (pending?_of hc).trans (Caller.pending?_saved hstage)
  by_cases hnext : ∃ j d t, j ≠ i ∧ w.callers[j]? = some d ∧ d.errand.stage.ticket? = some t ∧
    handed = some t
  · -- The lock goes to one who waited for it.
    obtain ⟨j, d, t, hji, hd, ht, hhanded⟩ := hnext
    obtain ⟨x, rest', s, hx, m, hs⟩ := (h.fits hd).holds ht
    obtain rfl : s = .waiting := (hwait _ hs hhanded).1
    have hbefore := h.granted?_waiting hd ht ⟨m, hs⟩
    have hnow := (hmem _).mpr ⟨_, hs, hother hji hd ht, rfl⟩
    rw [if_pos hhanded] at hnow
    have hget' := (get_others hcallers hji).trans hd
    have hafter := h'.granted?_holding hget' hx ht ⟨m, hnow⟩ rfl
    have hunsaved : ∀ t', d.errand.stage ≠ .saved t' := by
      intro t' hsaved
      have hheld := (h.fits hd).claimed hx
      rw [hsaved] at hheld ht
      obtain rfl := Option.some.inj ht
      have hclash := h.locked.hasMutex_iff ⟨m, hs⟩
      exact nomatch hclash.symm.trans (h.locked.hasMutex_iff hheld)
    have hpending := pending?_of hget'
    rw [Caller.pending?_unsaved hunsaved, ← granted?_of hget', hafter] at hpending
    have hothers : ∀ k, k ≠ j → k ≠ i → _ := fun k hkj hki => hkept k hki fun e u he hu heq =>
      hkj (h.apart he hd hu (ht.trans (hhanded.symm.trans heq)))
    refine h'.advances_grants hgrants hjournal hpending hbefore (fun k hkj y hy => ?_)
      fun k hkj => ?_
    · by_cases hki : k = i
      · subst hki
        exact nomatch hy.symm.trans hnone
      · rw [← (hothers k hkj hki).1, hy]
        exact nofun
    · by_cases hki : k = i
      · subst hki
        exact (pending?_eq_none hnone).trans hidle.symm
      · exact (hothers k hkj hki).2
  · -- Nobody waited for it.
    refine advances_quiet hc hcallers hgrants hjournal (fun k hk => hkept k hk
      fun d t hd ht hhanded => hnext ⟨k, d, t, hk, hd, ht, hhanded⟩) (fun x hx => ?_) ?_
    · exact nomatch hx.symm.trans (Caller.granted?_ready rfl)
    · exact (Caller.pending?_unsaved (by nofun)).trans
        ((Caller.granted?_ready rfl).trans (Caller.pending?_saved hstage).symm)

/-- Every step of a caller advances the order of locks and changes. -/
theorem Sound.advances_step (h : w.Sound rules failing) (now : Instant) (i : Nat) :
    w.Advances (w.step now i) := by
  rcases w.step_cases now i with hsame | ⟨c, c', a, entries, hc, hstep, hturn⟩
  · rw [hsame]
    exact .same rfl rfl fun _ => rfl
  · rw [hturn]
    cases hstep with
    | requests hjobs hstage => exact h.advances_requests hc hjobs hstage
    | notices hjobs hstage hheld => exact h.advances_notices hc hstage hheld
    | loads hjobs hstage => exact h.advances_loads hc hstage
    | saves hjobs hstage => exact h.advances_saves hc hjobs hstage
    | finishes hjobs hstage => 
      exact h.advances_finishes (h.finishes hc hjobs hstage []) hc hjobs hstage rfl rfl rfl
        (List.append_nil _)

/-- Every move advances the order of locks and changes. -/
theorem Sound.advances_move (h : w.Sound rules failing) (now : Instant) (m : Move) :
    w.Advances (w.move now m) := by
  cases m with
  | step i => exact h.advances_step now i
  | pass time => exact .same rfl rfl fun _ => rfl
  | answer i generated =>
    rcases answer_cases now i generated w with hsame | ⟨c, ticket, draft, hc, hstage, hanswer⟩
    · rw [World.move, hsame]
      exact .same rfl rfl fun _ => rfl
    · obtain ⟨⟨hlocks, _⟩, _⟩ := finishReply_keeps w.agent now draft generated
      have hticket : c.errand.stage.ticket? = some ticket := by rw [hstage]; rfl
      rw [World.move, hanswer]
      refine .same rfl rfl fun j => ?_
      by_cases hji : j = i
      · subst hji
        rw [pending?_of hc, pending?_of (get_moved hc rfl),
          Caller.pending?_unsaved (fun t ht => nomatch hstage.symm.trans ht),
          Caller.pending?_unsaved (by nofun)]
        exact (congrArg (Caller.granted? · _) hlocks).trans
          (Caller.granted?_restaged rfl hticket.symm)
      · exact (h.kept hji rfl (hlocks ▸ h.locked) fun _ _ _ _ _ _ hs => hlocks ▸ hs).2

end World

end Companion
