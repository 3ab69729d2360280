import Companion.Proofs.Interleaving

/-!
What every move of a world keeps. The claim of a caller is in the lock table, no two callers share
one, and between loading a record and saving it a caller carries what its job makes of the slot as
it is now: nobody else changes a slot whose lock is held.
-/

namespace Companion

open Number Text Time

def LockTable.Holds (t : LockTable) (ticket : Nat) (key : LockKey) (stage : ClaimStage) : Prop :=
  ∃ mutex, (⟨ticket, key, mutex, stage⟩ : Claim) ∈ t.claims

namespace LockTable

variable {t : LockTable} {ticket : Nat} {key : LockKey} {stage : ClaimStage}

theorem Sound.hasMutex_iff (h : Sound t) (hc : t.Holds ticket key stage) :
    t.hasMutex ticket = stage.hasMutex := by
  obtain ⟨mutex, hc⟩ := hc
  have hfound := h.claim? hc
  dsimp only at hfound
  simp [LockTable.hasMutex, hfound]

/-- A record is in the hands of one claim. -/
theorem Sound.holds_exclusive (h : Sound t) {j k : Nat} (hj : t.Holds j key .holding)
    (hk : t.Holds k key stage) (hstage : stage.hasMutex = true) : j = k := by
  obtain ⟨_, hj⟩ := hj
  obtain ⟨_, hk⟩ := hk
  exact congrArg Claim.ticket (h.exclusive hj hk rfl rfl hstage)

theorem Sound.holds_old (h : Sound t) (hc : t.Holds ticket key stage) : ticket < t.nextTicket := by
  obtain ⟨_, hc⟩ := hc
  exact h.old _ hc

end LockTable

/-- The claim of a stage is in the lock table: still in line, or holding the lock. -/
def Stage.Claimed (locks : LockTable) (key : LockKey) : Stage → Prop
  | .ready => True
  | .waiting t => locks.Holds t key .waiting ∨ locks.Holds t key .granted ∨
      locks.Holds t key .holding
  | .holding t => locks.Holds t key .holding
  | .asking t _ => locks.Holds t key .holding
  | .changed t _ => locks.Holds t key .holding
  | .saved t => locks.Holds t key .holding

/-- What a caller is to an agent: its claim is in the lock table, and what it carries was made from
what lies in the slot of its record. -/
structure Caller.Fits (rules : Rules) (failing : Prop) (locks : LockTable) (content : SlotContents)
    (c : Caller) : Prop where
  idle : c.errand.jobs = [] → c.errand.stage = .ready
  claimed : ∀ {job rest}, c.errand.jobs = job :: rest → c.errand.stage.Claimed locks job.key
  drafted : ∀ {job rest}, c.errand.jobs = job :: rest →
    c.errand.stage.Drafted rules failing (content job.key.slot) job c.given
  keepsId : ∀ job ∈ c.errand.jobs, job.KeepsId

/-- What every move of a world keeps. `failing` tells whether loads and saves may fail. -/
structure World.Sound {σ : Type} [Backend σ] [Faithful σ] (rules : Rules) (failing : Prop)
    (w : World σ) : Prop where
  locked : w.agent.locks.Sound
  ruled : w.agent.rules = rules
  users : Store.Keyed UserRecord w.agent.content
  groups : Store.Keyed GroupRecord w.agent.content
  fits : ∀ {i : Nat} {c : Caller}, w.callers[i]? = some c →
    c.Fits rules failing w.agent.locks w.agent.content
  apart : ∀ {i j t : Nat} {c d : Caller}, w.callers[i]? = some c → w.callers[j]? = some d →
    c.errand.stage.ticket? = some t → d.errand.stage.ticket? = some t → i = j

section Frames

variable {rules : Rules} {failing : Prop} {locks locks' : LockTable}
  {content content' : SlotContents}

/-- What a stage carries is still right where its slot is as it was, or where octets were moved
aside that it cannot have been made from. -/
theorem Stage.Drafted.of_slot {stage : Stage} {job : Job} {given : Option Given}
    (h : stage.Drafted rules failing (content job.key.slot) job given)
    (hslot : content' job.key.slot = content job.key.slot ∨ job.key.Aside content content') :
    stage.Drafted rules failing (content' job.key.slot) job given := by
  rcases hslot with hsame | ⟨data, _, hdata, hunread, _⟩
  · rw [hsame]
    exact h
  · cases stage with
    | asking ticket draft =>
      obtain ⟨event, opened, hjob, hgiven, hevent, hcases⟩ := h
      rcases hcases with hfailed | ⟨hclear, _⟩
      · exact ⟨event, opened, hjob, hgiven, hevent, .inl hfailed⟩
      · exact absurd (hclear data hdata) hunread
    | changed ticket unsaved =>
      obtain ⟨g, hgiven, hanswer, hcases⟩ := h
      rcases hcases with hfailed | ⟨hclear, _⟩
      · exact ⟨g, hgiven, hanswer, .inl hfailed⟩
      · exact absurd (hclear data hdata) hunread
    | ready => trivial
    | waiting ticket => trivial
    | holding ticket => trivial
    | saved ticket => trivial

/-- A claim stays where it is when its own holder does nothing, except that it may be handed the
mutex it waits for. -/
theorem Stage.Claimed.mono {stage : Stage} {key : LockKey} (h : stage.Claimed locks key)
    (hlocks : ∀ t s, stage.ticket? = some t → locks.Holds t key s →
      locks'.Holds t key s ∨ s = .waiting ∧ locks'.Holds t key .granted) :
    stage.Claimed locks' key := by
  have hheld : ∀ t, stage.ticket? = some t → locks.Holds t key .holding →
      locks'.Holds t key .holding := by
    intro t ht hold
    rcases hlocks t _ ht hold with hsame | ⟨hwait, _⟩
    · exact hsame
    · exact nomatch hwait
  cases stage with
  | ready => trivial
  | waiting t =>
    rcases h with hwait | hgranted | hold
    · rcases hlocks t _ rfl hwait with hsame | ⟨_, hgranted⟩
      · exact .inl hsame
      · exact .inr (.inl hgranted)
    · rcases hlocks t _ rfl hgranted with hsame | ⟨hwait, _⟩
      · exact .inr (.inl hsame)
      · exact nomatch hwait
    · exact .inr (.inr (hheld t rfl hold))
  | holding t => exact hheld t rfl h
  | asking t _ => exact hheld t rfl h
  | changed t _ => exact hheld t rfl h
  | saved t => exact hheld t rfl h

theorem Stage.Claimed.holds {stage : Stage} {key : LockKey} (h : stage.Claimed locks key) {t : Nat}
    (ht : stage.ticket? = some t) : ∃ s, locks.Holds t key s := by
  cases stage with
  | ready => exact nomatch ht
  | waiting t' =>
    obtain rfl := Option.some.inj ht
    rcases h with h | h | h <;> exact ⟨_, h⟩
  | holding t' => obtain rfl := Option.some.inj ht; exact ⟨_, h⟩
  | asking t' _ => obtain rfl := Option.some.inj ht; exact ⟨_, h⟩
  | changed t' _ => obtain rfl := Option.some.inj ht; exact ⟨_, h⟩
  | saved t' => obtain rfl := Option.some.inj ht; exact ⟨_, h⟩

variable {c : Caller}

theorem Caller.Fits.holds (h : c.Fits rules failing locks content) {t : Nat}
    (ht : c.errand.stage.ticket? = some t) :
    ∃ job rest s, c.errand.jobs = job :: rest ∧ locks.Holds t job.key s := by
  cases hjobs : c.errand.jobs with
  | nil =>
    rw [h.idle hjobs] at ht
    exact nomatch ht
  | cons job rest =>
    obtain ⟨s, hs⟩ := (h.claimed hjobs).holds ht
    exact ⟨job, rest, s, rfl, hs⟩

/-- A caller that does nothing fits the world after a move of another: its claim stays, and so does
the slot whose lock it holds. -/
theorem Caller.Fits.frame (h : c.Fits rules failing locks content)
    (hlocks : ∀ t key s, c.errand.stage.ticket? = some t → locks.Holds t key s →
      locks'.Holds t key s ∨ s = .waiting ∧ locks'.Holds t key .granted)
    (hslots : ∀ t key, c.errand.stage.ticket? = some t → locks.Holds t key .holding →
      content' key.slot = content key.slot ∨ key.Aside content content') :
    c.Fits rules failing locks' content' where
  idle := h.idle
  claimed hjobs := (h.claimed hjobs).mono fun t s ht hs => hlocks t _ s ht hs
  drafted := by
    intro job rest hjobs
    have hdraft := h.drafted hjobs
    have hclaim := h.claimed hjobs
    cases hstage : c.errand.stage with
    | ready => trivial
    | waiting t => trivial
    | holding t => trivial
    | saved t => trivial
    | asking t draft =>
      rw [hstage] at hdraft hclaim
      exact hdraft.of_slot (hslots t job.key (by rw [hstage]; rfl) hclaim)
    | changed t unsaved =>
      rw [hstage] at hdraft hclaim
      exact hdraft.of_slot (hslots t job.key (by rw [hstage]; rfl) hclaim)
  keepsId := h.keepsId

end Frames

/-! ### Claims -/

namespace LockTable

variable {t : LockTable}

def acquired (t : LockTable) (key : LockKey) : LockTable := (t.request key).2.poll t.nextTicket

theorem requested_mem (t : LockTable) (key : LockKey) :
    t.requested key ∈ (t.request key).2.claims := by
  rw [request_eq]
  exact List.mem_append.mpr (.inr List.mem_cons_self)

theorem Sound.acquired (h : Sound t) (key : LockKey) : Sound (t.acquired key) :=
  (h.request key).poll _

/-- A new claim gets in line or holds the lock, and the others stay where they are. -/
theorem Sound.mem_acquired (h : Sound t) (key : LockKey) :
    ∃ stage, (stage = .waiting ∨ stage = .holding) ∧ ∀ d, d ∈ (t.acquired key).claims ↔
      d = { t.requested key with stage } ∨ d ∈ t.claims := by
  refine ⟨nextStage ((t.request key).2.isTaken (t.requested key).mutex) .requested, ?_, fun d => ?_⟩
  · dsimp only [nextStage]
    split
    · exact .inl rfl
    · exact .inr rfl
  · have hpoll := (h.request key).mem_poll (requested_mem t key) (d := d)
    have hnew : ∀ c ∈ t.claims, c.ticket ≠ (t.requested key).ticket := fun c hc =>
      Nat.ne_of_lt (h.old c hc)
    refine hpoll.trans (or_congr Iff.rfl ?_)
    rw [request_eq]
    simp only [List.mem_append, List.mem_singleton]
    constructor
    · rintro ⟨hd | rfl, hne⟩
      · exact hd
      · exact absurd rfl hne
    · exact fun hd => ⟨.inl hd, hnew d hd⟩

end LockTable

/-! ### Moves -/

namespace World

variable {σ : Type} [Backend σ] [Faithful σ] {rules : Rules} {failing : Prop} {w w' : World σ}

/-- A move of one caller keeps the world sound if the caller fits the world that it leaves, touches
no claim but its own and the one it hands its lock to, and changes no slot whose lock it does not
hold, except that octets may be moved aside. -/
theorem Sound.moved (h : w.Sound rules failing) {i : Nat} {c c' : Caller}
    (hc : w.callers[i]? = some c) (hcallers : w'.callers = w.callers.set i c')
    (hlocked : w'.agent.locks.Sound) (hruled : w'.agent.rules = w.agent.rules)
    (husers : Store.Keyed UserRecord w'.agent.content)
    (hgroups : Store.Keyed GroupRecord w'.agent.content)
    (hown : c'.Fits rules failing w'.agent.locks w'.agent.content)
    (hticket : ∀ t, c'.errand.stage.ticket? = some t → c.errand.stage.ticket? = some t ∨
      ∀ key s, ¬ w.agent.locks.Holds t key s)
    (hclaims : ∀ t key s, c.errand.stage.ticket? ≠ some t → w.agent.locks.Holds t key s →
      w'.agent.locks.Holds t key s ∨ s = .waiting ∧ w'.agent.locks.Holds t key .granted)
    (hslots : ∀ key, w'.agent.content key.slot = w.agent.content key.slot ∨
      key.Aside w.agent.content w'.agent.content ∨
      ∃ t, c.errand.stage.ticket? = some t ∧ w.agent.locks.Holds t key .holding) :
    w'.Sound rules failing := by
  have hi : i < w.callers.length := (List.getElem?_eq_some_iff.mp hc).1
  have hget : ∀ j, w'.callers[j]? = if i = j then some c' else w.callers[j]? := by
    intro j
    rw [hcallers, List.getElem?_set]
    split
    · rfl
    · rfl
  have hself : ∀ j d, w'.callers[j]? = some d → i = j ∧ d = c' ∨ i ≠ j ∧ w.callers[j]? = some d := by
    intro j d hd
    rw [hget] at hd
    by_cases hij : i = j
    · rw [if_pos hij] at hd
      exact .inl ⟨hij, (Option.some.inj hd).symm⟩
    · rw [if_neg hij] at hd
      exact .inr ⟨hij, hd⟩
  -- a new ticket of the caller is nobody else's
  have hnew : ∀ j d t, w.callers[j]? = some d → i ≠ j → d.errand.stage.ticket? = some t →
      c'.errand.stage.ticket? ≠ some t := by
    intro j d t hd hij ht ht'
    rcases hticket t ht' with hold | hnone
    · exact hij (h.apart hc hd hold ht)
    · obtain ⟨job, _, s, _, hs⟩ := (h.fits hd).holds ht
      exact hnone _ _ hs
  refine ⟨hlocked, hruled.trans h.ruled, husers, hgroups, fun {j d} hd => ?_,
    fun {j k t d e} hd he htd hte => ?_⟩
  · rcases hself j d hd with ⟨_, rfl⟩ | ⟨hij, hd⟩
    · exact hown
    · refine (h.fits hd).frame (fun t key s ht hs => hclaims t key s ?_ hs) fun t key ht hs => ?_
      · exact fun hmine => hij (h.apart hc hd hmine ht)
      · rcases hslots key with hsame | haside | ⟨t', hmine, hmy⟩
        · exact .inl hsame
        · exact .inr haside
        · obtain rfl := h.locked.holds_exclusive hmy hs rfl
          exact absurd (h.apart hc hd hmine ht) hij
  · rcases hself j d hd with ⟨hij, rfl⟩ | ⟨hij, hd⟩
    · rcases hself k e he with ⟨hik, rfl⟩ | ⟨hik, he⟩
      · exact hij.symm.trans hik
      · exact absurd htd (hnew k e t he hik hte)
    · rcases hself k e he with ⟨hik, rfl⟩ | ⟨hik, he⟩
      · exact absurd hte (hnew j d t hd hij htd)
      · exact h.apart hd he htd hte

/-- The calls to the backend that a step of a caller makes for its record go through. -/
def Unhindered (now : Instant) (a : Agent σ) (c : Caller) : Prop :=
  match c.errand.jobs, c.errand.stage with
  | job :: _, .holding _ => job.loadState now a ≠ .readFailed
  | _, .changed _ unsaved => unsaved.Saves a
  | _, _ => True

theorem Sound.requests (h : w.Sound rules failing) {i : Nat} {c : Caller} {job : Job}
    {rest : List Job} (hc : w.callers[i]? = some c) (hjobs : c.errand.jobs = job :: rest)
    (entries : List Entry) :
    (w.turned i ⟨{ c.errand with stage := .waiting w.agent.locks.nextTicket }, c.given⟩
      { w.agent with locks := w.agent.locks.acquired job.key } entries).Sound rules failing := by
  obtain ⟨stage, hcases, hmem⟩ := h.locked.mem_acquired job.key
  have hfit := h.fits hc
  have hnew : (w.agent.locks.acquired job.key).Holds w.agent.locks.nextTicket job.key stage :=
    ⟨_, (hmem _).mpr (.inl rfl)⟩
  refine h.moved hc rfl (h.locked.acquired _) rfl h.users h.groups ?_ ?_ ?_ fun _ => .inl rfl
  · refine ⟨fun hnil => (nomatch hjobs.symm.trans hnil), fun hjobs' => ?_, fun _ => trivial,
      hfit.keepsId⟩
    obtain ⟨rfl, rfl⟩ := List.cons.inj (hjobs.symm.trans hjobs')
    rcases hcases with rfl | rfl
    · exact .inl hnew
    · exact .inr (.inr hnew)
  · intro t ht
    obtain rfl := Option.some.inj ht
    exact .inr fun key s hs => Nat.lt_irrefl _ (h.locked.holds_old hs)
  · exact fun t key s _ ⟨mutex, hs⟩ => .inl ⟨mutex, (hmem _).mpr (.inr hs)⟩

theorem Sound.notices (h : w.Sound rules failing) {i ticket : Nat} {c : Caller}
    (hc : w.callers[i]? = some c) (hstage : c.errand.stage = .waiting ticket)
    (hheld : (w.agent.locks.poll ticket).isHeld ticket = true) (entries : List Entry) :
    (w.turned i ⟨{ c.errand with stage := .holding ticket }, c.given⟩
      { w.agent with locks := w.agent.locks.poll ticket } entries).Sound rules failing := by
  have hfit := h.fits hc
  have hticket : c.errand.stage.ticket? = some ticket := by rw [hstage]; rfl
  obtain ⟨job, rest, s, hjobs, mutex, hclaim⟩ := hfit.holds hticket
  have hsound := h.locked.poll ticket
  have hmem := fun d => h.locked.mem_poll hclaim (d := d)
  dsimp only at hmem
  have hnow : (w.agent.locks.poll ticket).Holds ticket job.key .holding := by
    have hpolled := (hmem _).mpr (.inl rfl)
    have hfound := hsound.claim? hpolled
    dsimp only at hfound
    rw [LockTable.isHeld, hfound, Option.any_some, beq_iff_eq] at hheld
    dsimp only at hheld
    rw [hheld] at hpolled
    exact ⟨mutex, hpolled⟩
  refine h.moved hc rfl hsound rfl h.users h.groups ?_ ?_ ?_ fun _ => .inl rfl
  · refine ⟨fun hnil => (nomatch hjobs.symm.trans hnil), fun hjobs' => ?_, fun _ => trivial,
      hfit.keepsId⟩
    obtain ⟨rfl, rfl⟩ := List.cons.inj (hjobs.symm.trans hjobs')
    exact hnow
  · intro t ht
    obtain rfl := Option.some.inj ht
    exact .inl hticket
  · intro t key s hother ⟨m, hs⟩
    refine .inl ⟨m, (hmem _).mpr (.inr ⟨hs, ?_⟩)⟩
    rintro rfl
    exact hother hticket

theorem Sound.loads (h : w.Sound rules failing) {now : Instant} {i ticket : Nat} {c : Caller}
    {job : Job} {rest : List Job} (hc : w.callers[i]? = some c)
    (hjobs : c.errand.jobs = job :: rest) (hstage : c.errand.stage = .holding ticket)
    (hcalm : failing ∨ Unhindered now w.agent c) (entries : List Entry) :
    (w.turned i ⟨{ c.errand with stage := (Errand.start now ticket job w.agent).1 },
      some ⟨now, none⟩⟩ (Errand.start now ticket job w.agent).2 entries).Sound rules failing := by
  have hfit := h.fits hc
  have hticket : c.errand.stage.ticket? = some ticket := by rw [hstage]; rfl
  have hclaim := hfit.claimed hjobs
  rw [hstage] at hclaim
  have hload : failing ∨ job.loadState now w.agent ≠ .readFailed := by
    rw [Unhindered, hjobs, hstage] at hcalm
    exact hcalm
  have hstart : Errand.Started now ticket job failing w.agent _ _ := started_start job hload
  generalize Errand.start now ticket job w.agent = r at hstart
  obtain ⟨stage, a⟩ := r
  obtain ⟨⟨hlocks, hrules⟩, hvisit, hopen, hdraft⟩ := hstart
  dsimp only at hlocks hrules hvisit hopen hdraft
  rw [h.ruled] at hdraft
  refine h.moved hc rfl (hlocks ▸ h.locked) hrules (h.users.of_visited hvisit)
    (h.groups.of_visited hvisit) ?_ ?_ ?_ ?_
  · refine ⟨fun hnil => (nomatch hjobs.symm.trans hnil), fun hjobs' => ?_, fun hjobs' => ?_,
      hfit.keepsId⟩
    · obtain ⟨rfl, rfl⟩ := List.cons.inj (hjobs.symm.trans hjobs')
      have hhere : a.locks.Holds ticket job.key .holding := by
        rw [hlocks]
        exact hclaim
      cases stage with
      | asking t draft => exact hopen ▸ hhere
      | changed t unsaved => exact hopen ▸ hhere
      | _ => exact absurd hopen id
    · obtain ⟨rfl, rfl⟩ := List.cons.inj (hjobs.symm.trans hjobs')
      exact hdraft
  · intro t ht
    left
    rw [hticket, ← ht]
    cases stage with
    | asking t draft => exact congrArg some hopen.symm
    | changed t unsaved => exact congrArg some hopen.symm
    | _ => exact absurd hopen id
  · intro t key s _ hs
    left
    exact hlocks ▸ hs
  · intro key
    by_cases hkey : key = job.key
    · subst hkey
      exact .inr (.inr ⟨ticket, hticket, hclaim⟩)
    · exact .inl (hvisit.others key hkey)

/-- What a caller saves is what its job makes of the slot, or nothing where the record could not be
loaded. -/
theorem Sound.unsaved_cases (h : w.Sound rules failing) {i ticket : Nat} {c : Caller} {job : Job}
    {rest : List Job} {unsaved : Unsaved} (hc : w.callers[i]? = some c)
    (hjobs : c.errand.jobs = job :: rest) (hstage : c.errand.stage = .changed ticket unsaved) :
    unsaved.IsFor job.key ∧ ∃ g, c.given = some g ∧
      (∀ event, job = .reply event → g.answer ≠ none) ∧
      (failing ∧ unsaved = .nothing ∨ job.key.kind.Clear (w.agent.content job.key.slot) ∧
        unsaved = rules.result g (w.agent.content job.key.slot) job) := by
  have hfit := h.fits hc
  have hdraft := hfit.drafted hjobs
  rw [hstage] at hdraft
  obtain ⟨g, hgiven, hanswer, hcases⟩ := hdraft
  refine ⟨?_, g, hgiven, hanswer, hcases⟩
  rcases hcases with ⟨_, rfl⟩ | ⟨_, rfl⟩
  · trivial
  · exact result_isFor h.users h.groups rules g (hfit.keepsId job (hjobs ▸ List.mem_cons_self))

theorem Sound.saves (h : w.Sound rules failing) {i ticket : Nat} {c : Caller} {job : Job}
    {rest : List Job} {unsaved : Unsaved} (hc : w.callers[i]? = some c)
    (hjobs : c.errand.jobs = job :: rest) (hstage : c.errand.stage = .changed ticket unsaved)
    (entries : List Entry) :
    (w.turned i ⟨{ c.errand with stage := .saved ticket }, c.given⟩ (Errand.save unsaved w.agent)
      entries).Sound rules failing := by
  have hfit := h.fits hc
  have hticket : c.errand.stage.ticket? = some ticket := by rw [hstage]; rfl
  have hclaim := hfit.claimed hjobs
  rw [hstage] at hclaim
  obtain ⟨hfor, _⟩ := h.unsaved_cases hc hjobs hstage
  obtain ⟨hlocks, hrules⟩ := save_keeps (a := w.agent) unsaved
  have hcontent := save_content (a := w.agent) hfor
  have hkeyed := keyed_saved h.users h.groups hfor
  generalize Errand.save unsaved w.agent = a at hlocks hrules hcontent
  have husers : Store.Keyed UserRecord a.content := by
    rcases hcontent with hput | ⟨_, hsame⟩
    · exact hput ▸ hkeyed.1
    · exact hsame ▸ h.users
  have hgroups : Store.Keyed GroupRecord a.content := by
    rcases hcontent with hput | ⟨_, hsame⟩
    · exact hput ▸ hkeyed.2
    · exact hsame ▸ h.groups
  refine h.moved hc rfl (hlocks ▸ h.locked) hrules husers hgroups ?_ ?_ ?_ ?_
  · refine ⟨fun hnil => (nomatch hjobs.symm.trans hnil), fun hjobs' => ?_, fun _ => trivial,
      hfit.keepsId⟩
    obtain ⟨rfl, rfl⟩ := List.cons.inj (hjobs.symm.trans hjobs')
    exact hlocks ▸ hclaim
  · intro t ht
    left
    exact hticket.trans ht
  · intro t key s _ hs
    left
    exact hlocks ▸ hs
  · intro key
    by_cases hkey : key = job.key
    · subst hkey
      exact .inr (.inr ⟨ticket, hticket, hclaim⟩)
    · left
      rcases hcontent with hput | ⟨_, hsame⟩
      · have hput' : a.content = _ := hput
        simp only [World.turned, hput']
        exact Function.update_of_ne (fun heq => hkey (LockKey.slot_injective heq)) _ _
      · exact congrFun hsame _

theorem Sound.finishes (h : w.Sound rules failing) {i ticket : Nat} {c : Caller} {job : Job}
    {rest : List Job} (hc : w.callers[i]? = some c) (hjobs : c.errand.jobs = job :: rest)
    (hstage : c.errand.stage = .saved ticket) (entries : List Entry) :
    (w.turned i ⟨{ c.errand with jobs := rest, stage := .ready }, c.given⟩
      { w.agent with locks := w.agent.locks.unlock ticket } entries).Sound rules failing := by
  have hfit := h.fits hc
  have hticket : c.errand.stage.ticket? = some ticket := by rw [hstage]; rfl
  have hclaim := hfit.claimed hjobs
  rw [hstage] at hclaim
  obtain ⟨mutex, hclaim⟩ := hclaim
  obtain ⟨handed, hwait, hmem⟩ := h.locked.mem_unlock hclaim rfl
  dsimp only at hmem
  refine h.moved hc rfl (h.locked.unlock ticket) rfl h.users h.groups ?_ ?_ ?_ fun _ => .inl rfl
  · refine ⟨fun _ => rfl, fun _ => trivial, fun _ => trivial, fun job' hjob' => ?_⟩
    exact hfit.keepsId job' (hjobs ▸ List.mem_cons_of_mem job hjob')
  · exact fun t ht => nomatch ht
  · intro t key s hother ⟨m, hs⟩
    have hne : t ≠ ticket := by
      rintro rfl
      exact hother hticket
    have hnow := (hmem _).mpr ⟨_, hs, hne, rfl⟩
    by_cases hhanded : handed = some t
    · rw [if_pos hhanded] at hnow
      exact .inr ⟨(hwait _ hs hhanded).1, m, hnow⟩
    · rw [if_neg hhanded] at hnow
      exact .inl ⟨m, hnow⟩

/-- Every step keeps a world sound, where either failures are taken into account or the step meets
none. -/
theorem Sound.step (h : w.Sound rules failing) {now : Instant} {i : Nat}
    (hcalm : failing ∨ ∀ c, w.callers[i]? = some c → Unhindered now w.agent c) :
    (w.step now i).Sound rules failing := by
  rcases w.step_cases now i with hsame | ⟨c, c', a, entries, hc, hstep, hturn⟩
  · rw [hsame]
    exact h
  · rw [hturn]
    cases hstep with
    | requests hjobs hstage => exact h.requests hc hjobs _
    | notices hjobs hstage hheld => exact h.notices hc hstage hheld _
    | loads hjobs hstage => exact h.loads hc hjobs hstage (hcalm.imp id fun hc' => hc' c hc) _
    | saves hjobs hstage => exact h.saves hc hjobs hstage _
    | finishes hjobs hstage => exact h.finishes hc hjobs hstage _

omit [Backend σ] [Faithful σ] in
/-- What an answer does: nothing, or it leaves what the job of the asking caller makes of it. -/
theorem answer_cases (now : Instant) (i : Nat) (generated : Except TurnError String)
    (w : World σ) : w.answer now i generated = w ∨ ∃ c ticket draft, w.callers[i]? = some c ∧
      c.errand.stage = .asking ticket draft ∧ w.answer now i generated =
        { w with
          agent := (w.agent.finishReply now draft generated).2
          callers := w.callers.set i
            ⟨{ c.errand with
                stage := .changed ticket (.ofUser (w.agent.finishReply now draft generated).1.1)
                outcome := (w.agent.finishReply now draft generated).1.2 },
              c.given.map fun g => { g with answer := some (now, generated) }⟩ } := by
  cases hc : w.callers[i]? with
  | none => exact .inl (by simp only [answer, hc])
  | some c =>
    obtain ⟨⟨jobs, stage, outcome⟩, given⟩ := c
    cases stage with
    | asking ticket draft =>
      refine .inr ⟨_, ticket, draft, rfl, rfl, ?_⟩
      simp only [answer, hc, Errand.question?, Option.isSome_some, if_true, Errand.answered]
    | _ => exact .inl (by simp [answer, hc, Errand.question?])

theorem Sound.answer (h : w.Sound rules failing) (now : Instant) (i : Nat)
    (generated : Except TurnError String) : (w.answer now i generated).Sound rules failing := by
  rcases answer_cases now i generated w with hsame | ⟨c, ticket, draft, hc, hstage, hanswer⟩
  · rw [hsame]
    exact h
  · have hfit := h.fits hc
    have hticket : c.errand.stage.ticket? = some ticket := by rw [hstage]; rfl
    obtain ⟨job, rest, _, hjobs, _⟩ := hfit.holds hticket
    have hclaim := hfit.claimed hjobs
    have hdraft := hfit.drafted hjobs
    rw [hstage] at hclaim hdraft
    obtain ⟨⟨hlocks, hrules⟩, hcontent⟩ := finishReply_keeps w.agent now draft
      generated
    have hchanged := hdraft.answered now h.ruled generated
    rw [hanswer]
    generalize (w.agent.finishReply now draft generated) = r at hlocks hrules hcontent hchanged
    obtain ⟨⟨loaded, outcome⟩, a⟩ := r
    dsimp only at hlocks hrules hcontent hchanged ⊢
    refine h.moved hc rfl (hlocks ▸ h.locked) hrules (hcontent ▸ h.users) (hcontent ▸ h.groups)
      ?_ ?_ ?_ fun key => .inl (congrFun hcontent key.slot)
    · refine ⟨fun hnil => (nomatch hjobs.symm.trans hnil), fun hjobs' => ?_, fun hjobs' => ?_,
        hfit.keepsId⟩
      · obtain ⟨rfl, rfl⟩ := List.cons.inj (hjobs.symm.trans hjobs')
        exact hlocks ▸ hclaim
      · obtain ⟨rfl, rfl⟩ := List.cons.inj (hjobs.symm.trans hjobs')
        exact hcontent ▸ hchanged
    · intro t ht
      left
      exact hticket.trans ht
    · intro t key s _ hs
      left
      exact hlocks ▸ hs

def Calm (w : World σ) (m : Instant × Move) : Prop :=
  match m.2 with
  | .step i => ∀ c, w.callers[i]? = some c → Unhindered m.1 w.agent c
  | _ => True

/-- Every move keeps a world sound. -/
theorem Sound.move (h : w.Sound rules failing) {now : Instant} {m : Move}
    (hcalm : failing ∨ w.Calm (now, m)) : (w.move now m).Sound rules failing := by
  cases m with
  | step i => exact h.step hcalm
  | answer i generated => exact h.answer now i generated
  | pass time => exact ⟨h.locked, h.ruled, h.users, h.groups, h.fits, h.apart⟩

/-- Calls that are about to begin make a sound world. -/
theorem sound_start {agent : Agent σ} {calls : List Call} (hlocks : agent.locks = {})
    (husers : Store.Keyed UserRecord agent.content)
    (hgroups : Store.Keyed GroupRecord agent.content) :
    (start agent calls).Sound agent.rules failing := by
  have hready : ∀ {i : Nat} {c : Caller}, (start agent calls).callers[i]? = some c →
      ∃ call : Call, c.errand = call.errand agent.store.settings := by
    intro i c hc
    obtain ⟨call, _, rfl⟩ := List.mem_map.mp (List.mem_of_getElem? hc)
    exact ⟨call, rfl⟩
  have hlocked : agent.locks.Sound := hlocks ▸ LockTable.sound_empty
  refine ⟨hlocked, rfl, husers, hgroups, fun hc => ?_, fun hc _ ht _ => ?_⟩
  · obtain ⟨call, hcall⟩ := hready hc
    have hstage := call.stage_errand agent.store.settings
    refine ⟨fun _ => ?_, fun _ => ?_, fun _ => ?_, ?_⟩
    · rw [hcall, hstage]
    · rw [hcall, hstage]
      trivial
    · rw [hcall, hstage]
      trivial
    · rw [hcall]
      exact call.keepsId_errand _
  · obtain ⟨call, hcall⟩ := hready hc
    rw [hcall, call.stage_errand] at ht
    exact nomatch ht

end World

end Companion
