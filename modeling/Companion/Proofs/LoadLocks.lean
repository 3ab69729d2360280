import Companion.Proofs.Bustles
import Companion.Proofs.GrantOrder

/-!
Locks while loads go call by call. A caller holds the lock of its record from the first call of its load
until it has saved the record. So nobody loads a record under its lock while another saves it under its
lock.
-/

namespace Companion

open Number Text Time Json

/-! ### What locks tell of a world -/

/-- A stage without what it carries: it waits for a lock, or holds it. -/
def Stage.shade : Stage → Stage
  | .ready => .ready
  | .waiting ticket => .waiting ticket
  | .holding ticket => .saved ticket
  | .asking ticket _ => .saved ticket
  | .changed ticket _ => .saved ticket
  | .saved ticket => .saved ticket

def Caller.shade (c : Caller) : Caller where
  errand := { jobs := c.errand.jobs, stage := c.errand.stage.shade }

theorem Caller.shade_eq (c : Caller) {stage : Stage} (h : stage.shade = c.errand.stage.shade)
    (outcome : Outcome) (given : Option Given) :
    Caller.shade ⟨⟨c.errand.jobs, stage, outcome⟩, given⟩ = c.shade := by
  simp only [Caller.shade, h]

namespace World

/-- A world without what lies in its slots and what its callers carry. -/
def shade (settings : RecordSettings) (w : World Memory) : World Memory where
  agent := { store := { slots := .empty, settings }, locks := w.agent.locks }
  callers := w.callers.map Caller.shade

/-- Locks keep callers apart: a world is sound as far as its locks go. -/
def Guarded (settings : RecordSettings) (w : World Memory) : Prop :=
  (w.shade settings).Sound ⟨settings, {}, {}⟩ True

variable {settings : RecordSettings} {w w' : World Memory} {i : Nat} {c c' : Caller}

theorem get_shade (hc : w.callers[i]? = some c) : (w.shade settings).callers[i]? = some c.shade := by
  simp only [shade, List.getElem?_map, hc, Option.map_some]

theorem Guarded.of_sound {v : World Memory} (h : v.Sound ⟨settings, {}, {}⟩ True)
    (hagent : v.agent = (w.shade settings).agent) (hcallers : v.callers = (w.shade settings).callers) :
    w.Guarded settings := by
  obtain ⟨agent, callers, grants, journal⟩ := v
  dsimp only at hagent hcallers
  subst hagent hcallers
  exact ⟨h.locked, h.ruled, h.users, h.groups, h.fits, h.apart⟩

theorem guarded_start (agent : Agent Memory) (calls : List Call) (hlocks : agent.locks = {}) :
    (start agent calls).Guarded agent.store.settings := by
  have hnone : ∀ (R : Type) [Record R], Store.Keyed R (fun _ => none) :=
    fun R _ _ _ _ _ h => nomatch h
  let blank : Agent Memory := { store := { slots := .empty, settings := agent.store.settings } }
  have hsound : (start blank calls).Sound blank.rules True :=
    sound_start rfl (hnone UserRecord) (hnone GroupRecord)
  refine .of_sound hsound ?_ ?_
  · simp only [shade, start, hlocks, blank]
  · simp only [shade, start, List.map_map]
    refine List.map_congr_left fun call _ => ?_
    cases call <;> rfl

/-- Where callers and locks look the same, callers are kept apart all the same. -/
theorem Guarded.same (h : w.Guarded settings) (hlocks : w'.agent.locks = w.agent.locks)
    (hcallers : w'.callers.map Caller.shade = w.callers.map Caller.shade) :
    w'.Guarded settings := by
  refine .of_sound h ?_ hcallers.symm
  simp only [shade, hlocks]

theorem Guarded.set_same (h : w.Guarded settings) (hc : w.callers[i]? = some c)
    (hshade : c'.shade = c.shade) (hlocks : w'.agent.locks = w.agent.locks)
    (hcallers : w'.callers = w.callers.set i c') : w'.Guarded settings := by
  refine h.same hlocks ?_
  obtain ⟨hi, rfl⟩ := List.getElem?_eq_some_iff.mp hc
  rw [hcallers, List.map_set, hshade, ← List.getElem_map Caller.shade (h := by simpa using hi),
    List.set_getElem_self]

/-- A caller that has its lock is kept apart from the others whatever it does under it. -/
theorem restaged {rules : Rules} (h : w.Sound rules True) (hc : w.callers[i]? = some c)
    {ticket : Nat} (hstage : c.errand.stage = .holding ticket) (entries : List Entry) :
    (w.turned i ⟨{ c.errand with stage := .saved ticket }, c.given⟩ w.agent entries).Sound rules
      True := by
  have hfit := h.fits hc
  refine h.moved hc rfl h.locked rfl h.users h.groups ⟨fun hnil => ?_, fun hjobs => ?_,
    fun _ => trivial, hfit.keepsId⟩ (fun t ht => .inl ?_) (fun t key s _ hs => .inl hs)
    fun _ => .inl rfl
  · exact nomatch hstage.symm.trans (hfit.idle hnil)
  · have hclaimed := hfit.claimed hjobs
    rwa [hstage] at hclaimed
  · rw [hstage]
    exact ht

/-- A step of a caller that is not about to load keeps callers apart. -/
theorem Guarded.step (h : w.Guarded settings) (now : Instant) (hc : w.callers[i]? = some c)
    (hopens : c.opens? = none) : (w.step now i).Guarded settings := by
  have hget : (w.shade settings).callers[i]? = some c.shade := get_shade hc
  rcases w.step_cases now i with hsame | ⟨d, c', a, entries, hd, hstep, hturn⟩
  · rw [hsame]
    exact h
  · obtain rfl := Option.some.inj (hc.symm.trans hd)
    rw [hturn]
    cases hstep with
    | @requests job rest hjobs hstage =>
      have hnext := Sound.requests h hget hjobs []
      refine .of_sound hnext rfl ?_
      simp only [turned, shade, List.map_set]
      rfl
    | @notices job rest ticket hjobs hstage hheld =>
      have hwaits : c.shade.errand.stage = .waiting ticket := by
        simp only [Caller.shade, hstage, Stage.shade]
      have hnext := restaged (Sound.notices h hget hwaits hheld []) (get_moved hget rfl) rfl []
      refine .of_sound hnext rfl ?_
      simp only [turned, shade, List.map_set, List.set_set]
      rfl
    | loads hjobs hstage => simp [Caller.opens?, hjobs, hstage] at hopens
    | @saves job rest ticket unsaved hjobs hstage =>
      refine h.set_same hc (c.shade_eq ?_ _ _) (save_keeps unsaved).locks rfl
      rw [hstage]
      rfl
    | @finishes job rest ticket hjobs hstage =>
      have hsaved : c.shade.errand.stage = .saved ticket := by
        simp only [Caller.shade, hstage, Stage.shade]
      have hnext := Sound.finishes h hget hjobs hsaved []
      refine .of_sound hnext rfl ?_
      simp only [turned, shade, List.map_set]
      rfl

theorem Guarded.answer (h : w.Guarded settings) (now : Instant) (i : Nat)
    (generated : Except TurnError String) : (w.answer now i generated).Guarded settings := by
  rcases answer_cases now i generated w with hsame | ⟨c, ticket, draft, hc, hstage, hanswer⟩
  · rw [hsame]
    exact h
  · rw [hanswer]
    refine h.set_same hc (c.shade_eq ?_ _ _)
      (finishReply_keeps w.agent now draft generated).1.locks rfl
    rw [hstage]
    rfl

/-- Two callers that both hold the lock of a record are one. -/
theorem Guarded.alone (h : w.Guarded settings) {i j : Nat} {c d : Caller}
    (hc : w.callers[i]? = some c) (hd : w.callers[j]? = some d) {job job' : Job}
    {rest rest' : List Job} (hjobs : c.errand.jobs = job :: rest)
    (hjobs' : d.errand.jobs = job' :: rest') (hkey : job.key = job'.key) {t u : Nat}
    (hstage : c.errand.stage.shade = .saved t) (hstage' : d.errand.stage.shade = .saved u) :
    i = j := by
  have hmine : c.shade.errand.stage.Claimed w.agent.locks job.key :=
    (Sound.fits h (get_shade hc)).claimed hjobs
  have hyours : d.shade.errand.stage.Claimed w.agent.locks job'.key :=
    (Sound.fits h (get_shade hd)).claimed hjobs'
  rw [show c.shade.errand.stage = .saved t from hstage, hkey] at hmine
  rw [show d.shade.errand.stage = .saved u from hstage'] at hyours
  obtain rfl : t = u := (Sound.locked h).holds_exclusive hmine hyours rfl
  exact Sound.apart h (get_shade hc) (get_shade hd) (congrArg Stage.ticket? hstage)
    (congrArg Stage.ticket? hstage')

end World

/-! ### Loads under locks -/

theorem Caller.opens?_eq_some {c : Caller} {job : Job} {ticket : Nat}
    (h : c.opens? = some (job, ticket)) :
    ∃ rest, c.errand.jobs = job :: rest ∧ c.errand.stage = .holding ticket := by
  obtain ⟨⟨jobs, stage, outcome⟩, given⟩ := c
  cases jobs with
  | nil => cases h
  | cons first rest =>
    cases stage with
    | holding held =>
      obtain ⟨rfl, rfl⟩ := Prod.mk.inj (Option.some.inj h)
      exact ⟨rest, rfl, rfl⟩
    | _ => cases h

/-- A caller that goes on with the record that it loaded holds its lock as before. -/
theorem Job.proceed_keeps {σ : Type} [Backend σ] (now : Instant) (ticket : Nat) (a : Agent σ)
    (job : Job) (found : Loaded job.key.kind.Of) :
    (job.proceed now ticket a found).1.shade = .saved ticket ∧
      (job.proceed now ticket a found).2.locks = a.locks := by
  cases job <;> exact ⟨rfl, rfl⟩

namespace Bustle

/-- What every deed keeps: locks keep callers apart, and who loads a record holds its lock. -/
structure Guarded (settings : RecordSettings) (b : Bustle) : Prop where
  world : b.world.Guarded settings
  openings : ∀ {i : Nat} {o : Opening}, b.openings i = some o →
    ∃ c ticket, b.world.callers[i]? = some c ∧ c.opens? = some (o.job, ticket)

variable {settings : RecordSettings} {b : Bustle} (now : Instant)

theorem guarded_start (agent : Agent Memory) (calls : List Call) (hlocks : agent.locks = {}) :
    (start agent calls).Guarded agent.store.settings :=
  ⟨World.guarded_start agent calls hlocks, fun ho => nomatch ho⟩

/-- A move of a caller that is not about to load leaves the loads of the others alone. -/
theorem Guarded.others (h : b.Guarded settings) {i : Nat} {c c' : Caller}
    (hc : b.world.callers[i]? = some c) (hopens : c.opens? = none) {w : World Memory}
    (hcallers : w.callers = b.world.callers.set i c') {j : Nat} {o : Opening}
    (ho : b.openings j = some o) :
    ∃ c ticket, w.callers[j]? = some c ∧ c.opens? = some (o.job, ticket) := by
  obtain ⟨d, ticket, hd, hopens'⟩ := h.openings ho
  have hji : j ≠ i := by
    rintro rfl
    obtain rfl := Option.some.inj (hc.symm.trans hd)
    exact nomatch hopens.symm.trans hopens'
  exact ⟨d, ticket, (World.get_others hcallers hji).trans hd, hopens'⟩

theorem Guarded.advance (h : b.Guarded settings) {i ticket : Nat} {c : Caller} {job : Job}
    (hc : b.world.callers[i]? = some c) (hopens : c.opens? = some (job, ticket)) :
    (b.advance now i c ticket ((b.openings i).getD { job })).Guarded settings := by
  have hjob : ((b.openings i).getD { job }).job = job := by
    cases ho : b.openings i with
    | none => rfl
    | some o =>
      obtain ⟨d, u, hd, hopens'⟩ := h.openings ho
      obtain rfl := Option.some.inj (hc.symm.trans hd)
      exact (congrArg Prod.fst (Option.some.inj (hopens.symm.trans hopens'))).symm
  generalize (b.openings i).getD { job } = o at hjob
  obtain ⟨o, progress⟩ := o
  obtain rfl : o = job := hjob
  by_cases hloaded : ∃ found, progress = .loaded found
  · obtain ⟨found, rfl⟩ := hloaded
    obtain ⟨hshade, hlocks⟩ := o.proceed_keeps now ticket b.world.agent found
    obtain ⟨rest, -, hstage⟩ := Caller.opens?_eq_some hopens
    refine ⟨h.world.set_same hc (c.shade_eq (hshade.trans ?_) _ _) hlocks rfl, fun {j o'} ho => ?_⟩
    · rw [hstage]
      rfl
    · change Function.update b.openings i none j = some o' at ho
      have hji : j ≠ i := by
        rintro rfl
        rw [Function.update_self] at ho
        cases ho
      rw [Function.update_of_ne hji] at ho
      obtain ⟨d, u, hd, hopens'⟩ := h.openings ho
      exact ⟨d, u, (World.get_others rfl hji).trans hd, hopens'⟩
  · rw [advance_call now fun found h => hloaded ⟨found, h⟩]
    refine ⟨h.world.same rfl rfl, fun {j o} ho => ?_⟩
    by_cases hji : j = i
    · subst hji
      dsimp only at ho
      rw [Function.update_self] at ho
      obtain rfl := Option.some.inj ho
      exact ⟨c, ticket, hc, hopens⟩
    · dsimp only at ho
      rw [Function.update_of_ne hji] at ho
      exact h.openings ho

theorem Guarded.deed (h : b.Guarded settings) (d : Deed) : (b.deed now d).Guarded settings := by
  cases d with
  | move m =>
    cases m with
    | step i =>
      show (b.step now i).Guarded settings
      cases hc : b.world.callers[i]? with
      | none =>
        rw [step_absent now hc]
        exact h
      | some c =>
        cases hopens : c.opens? with
        | some opening => exact step_opening now hc hopens ▸ h.advance now hc hopens
        | none =>
          rw [step_other now hc hopens]
          refine ⟨h.world.step now hc hopens, fun ho => ?_⟩
          rcases b.world.step_cases now i with hsame | ⟨d, c', a, entries, hd, hstep, hturn⟩
          · rw [hsame]
            exact h.openings ho
          · rw [hturn]
            exact h.others hc hopens rfl ho
    | answer i generated =>
      refine ⟨h.world.answer now i generated, fun {j o} ho => ?_⟩
      change ∃ c ticket, (b.world.answer now i generated).callers[j]? = some c ∧
        c.opens? = some (o.job, ticket)
      rcases World.answer_cases now i generated b.world with hsame | ⟨c, ticket, draft, hc, hstage, hanswer⟩
      · rw [hsame]
        exact h.openings ho
      · have hopens : c.opens? = none := by
          unfold Caller.opens?
          rw [hstage]
          cases c.errand.jobs <;> rfl
        rw [hanswer]
        exact h.others hc hopens rfl ho
    | pass time => exact ⟨h.world.same rfl rfl, h.openings⟩
  | look key => exact ⟨h.world, h.openings⟩
  | call j =>
    cases hlook : b.looks[j]? with
    | none =>
      have hsame : b.deed now (.call j) = b := by simp only [Bustle.deed, hlook]
      rw [hsame]
      exact h
    | some l =>
      have hstep : b.deed now (.call j) = _ := calls_look now b hlook 1
      rw [hstep]
      exact ⟨h.world.same rfl rfl, h.openings⟩

theorem Guarded.after (h : b.Guarded settings) (run : List (Instant × Deed)) :
    (b.after run).Guarded settings := by
  induction run generalizing b with
  | nil => exact h
  | cons x rest ih => exact ih (h.deed x.1 x.2)

/-- Nobody loads a record under its lock while another who has changed it is about to save it. -/
theorem Guarded.not_opening (h : b.Guarded settings) {i : Nat} {c : Caller} {job : Job}
    {rest : List Job} {ticket : Nat} {unsaved : Unsaved} (hc : b.world.callers[i]? = some c)
    (hjobs : c.errand.jobs = job :: rest) (hstage : c.errand.stage = .changed ticket unsaved)
    {j : Nat} {o : Opening} (ho : b.openings j = some o) : o.job.key ≠ job.key := by
  intro hkey
  obtain ⟨d, u, hd, hopens⟩ := h.openings ho
  obtain ⟨rest', hjobs', hstage'⟩ := Caller.opens?_eq_some hopens
  have hi : i = j := h.world.alone hc hd hjobs hjobs' hkey.symm
    (by rw [hstage]; rfl) (by rw [hstage']; rfl)
  subst hi
  obtain rfl := Option.some.inj (hc.symm.trans hd)
  exact nomatch hstage.symm.trans hstage'

end Bustle

end Companion
