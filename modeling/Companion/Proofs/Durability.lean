import Companion.Proofs.Exclusion

/-!
What is durable. Whatever fails, a slot that holds a user record holds one ever after: no fact is
lost, and a fact changes only where an update of that user says so. Octets that hold no record are
not written over either, only moved aside.
-/

namespace Companion

open Number Text Time Json

/-! ### Facts -/

/-- Facts that came from others, where every change is allowed. -/
def Facts.Extends (allowed : String → String → Prop) (a b : Facts) : Prop :=
  ∀ name, b.get? name = a.get? name ∨ ∃ value, b.get? name = some value ∧ allowed name value

namespace Facts.Extends

variable {allowed : String → String → Prop} {a b c : Facts}

theorem refl (allowed : String → String → Prop) (a : Facts) : Extends allowed a a :=
  fun _ => .inl rfl

theorem trans (hab : Extends allowed a b) (hbc : Extends allowed b c) : Extends allowed a c := by
  intro name
  rcases hbc name with hsame | hnew
  · rw [hsame]
    exact hab name
  · exact .inr hnew

theorem mono {more : String → String → Prop} (h : Extends allowed a b)
    (himp : ∀ name value, allowed name value → more name value) : Extends more a b := by
  intro name
  rcases h name with hsame | ⟨value, hvalue, hallowed⟩
  · exact .inl hsame
  · exact .inr ⟨value, hvalue, himp name value hallowed⟩

/-- No name is lost. -/
theorem keeps (h : Extends allowed a b) {name : String} (hname : (a.get? name).isSome = true) :
    (b.get? name).isSome = true := by
  rcases h name with hsame | ⟨value, hvalue, _⟩
  · rw [hsame]
    exact hname
  · rw [hvalue]
    rfl

end Facts.Extends

theorem Facts.extends_mergeOne (facts : Facts) (name value : String) :
    Facts.Extends (fun n v => n = name ∧ v = value) facts (facts.mergeOne name value).1 := by
  intro n
  unfold mergeOne
  split
  · exact .inl rfl
  · rw [Table.get?_insert]
    by_cases hn : name = n
    · right
      exact ⟨value, if_pos hn, hn.symm, rfl⟩
    · left
      exact if_neg hn

theorem Facts.extends_merge (updates : List (String × String)) (facts : Facts) :
    Facts.Extends (fun n v => (n, v) ∈ updates) facts (facts.merge updates).1 := by
  induction updates generalizing facts with
  | nil => exact .refl _ _
  | cons update updates ih =>
    obtain ⟨name, value⟩ := update
    have hone : Facts.Extends (fun n v => (n, v) ∈ (name, value) :: updates) facts
        (facts.mergeOne name value).1 := by
      refine (facts.extends_mergeOne name value).mono ?_
      rintro n v ⟨rfl, rfl⟩
      exact List.mem_cons_self
    exact hone.trans ((ih _).mono fun _ _ h => List.mem_cons_of_mem _ h)

theorem extends_learned (directives : List Directive) (user : UserRecord) :
    Facts.Extends (fun n v => ∃ updates, Directive.update updates ∈ directives ∧ (n, v) ∈ updates)
      user.facts (learned directives user).facts := by
  induction directives generalizing user with
  | nil => exact .refl _ _
  | cons directive directives ih =>
    have hrest : ∀ user : UserRecord, Facts.Extends (fun n v => ∃ updates,
        Directive.update updates ∈ directive :: directives ∧ (n, v) ∈ updates) user.facts
        (learned directives user).facts := fun user => (ih user).mono
      fun _ _ ⟨updates, hmem, hin⟩ => ⟨updates, List.mem_cons_of_mem _ hmem, hin⟩
    cases directive with
    | update updates =>
      have hmerge : Facts.Extends (fun n v => ∃ us,
          Directive.update us ∈ Directive.update updates :: directives ∧ (n, v) ∈ us) user.facts
          (user.mergeFacts updates).1.facts :=
        (Facts.extends_merge updates user.facts).mono fun _ _ h =>
          ⟨updates, List.mem_cons_self, h⟩
      exact hmerge.trans (hrest (user.mergeFacts updates).1)
    | remind reminder => exact hrest user

theorem facts_syncUsername (r : UserRecord) (name : Option String) :
    (r.syncUsername name).1.facts = r.facts := by
  unfold UserRecord.syncUsername
  split
  · rfl
  · split <;> rfl

theorem facts_recordTurn (now : Instant) (capacity : Nat) (text visible : String)
    (r : UserRecord) : (Agent.recordTurn now capacity text visible r).facts = r.facts := by
  simp only [Agent.recordTurn, UserRecord.touch]
  split <;> rfl

/-! ### Changes through the mutators of a record -/

/-- A user record that came from another by its own mutators. -/
inductive UserRecord.Edited (r : UserRecord) : UserRecord → Prop
  | unchanged : Edited r r
  | mergeFacts {s : UserRecord} (updates : List (String × String)) (h : Edited r s) :
      Edited r (s.mergeFacts updates).1
  | pushHistory {s : UserRecord} (capacity : Nat) (entry : HistoryEntry) (h : Edited r s) :
      Edited r (s.pushHistory capacity entry)
  | syncUsername {s : UserRecord} (name : Option String) (h : Edited r s) :
      Edited r (s.syncUsername name).1
  | touch {s : UserRecord} (now : Instant) (h : Edited r s) : Edited r (s.touch now)

theorem UserRecord.Edited.extends_facts {r s : UserRecord} (h : r.Edited s) :
    Facts.Extends (fun _ _ => True) r.facts s.facts := by
  induction h with
  | unchanged => exact .refl _ _
  | mergeFacts updates _ ih =>
    exact ih.trans ((Facts.extends_merge updates _).mono fun _ _ _ => trivial)
  | pushHistory capacity entry _ ih => exact ih
  | syncUsername name _ ih =>
    rw [facts_syncUsername]
    exact ih
  | touch now _ ih => exact ih

def Call.UsesMutators : Call → Prop
  | .updateUser _ mutation => ∀ now r, UserRecord.Edited r (mutation.change now r)
  | _ => True

def Job.UsesMutators : Job → Prop
  | .editUser _ change => ∀ now r, UserRecord.Edited r (change now r)
  | _ => True

theorem Call.UsesMutators.errand {call : Call} (h : call.UsesMutators)
    (settings : RecordSettings) : ∀ job ∈ (call.errand settings).jobs, job.UsesMutators := by
  intro job hjob
  cases call with
  | message now event =>
    rcases mem_ofEvent hjob with rfl | rfl | rfl <;> trivial
  | added chat title =>
    obtain rfl := List.mem_singleton.mp hjob
    trivial
  | updateUser id mutation =>
    obtain rfl := List.mem_singleton.mp hjob
    exact h
  | updateGroup id mutation =>
    obtain rfl := List.mem_singleton.mp hjob
    trivial

/-! ### What a saved change does to a slot -/

namespace Entry

/-- A change may give a fact a value: it is an update call, or the turn of a generated text in which
an update says so. -/
def Teaches (rules : Rules) (e : Entry) (name value : String) : Prop :=
  match e.job with
  | .editUser _ _ => True
  | .reply _ => ∃ closed text updates, e.given.answer = some (closed, .ok text) ∧
      Directive.update updates ∈ (Reply.parse rules.directives text).directives ∧
      (name, value) ∈ updates
  | _ => False

end Entry

def factsIn? (now : Instant) (slot : Option Octets) : Option Facts :=
  slot.bind fun data => (Record.decode now data : Except Fault UserRecord).toOption.map (·.facts)

theorem factsIn?_eq_some {now : Instant} {slot : Option Octets} {facts : Facts} :
    factsIn? now slot = some facts ↔
      ∃ (data : Octets) (r : UserRecord), slot = some data ∧ Record.decode now data = .ok r ∧
        r.facts = facts := by
  unfold factsIn?
  constructor
  · intro h
    obtain ⟨data, rfl, h⟩ := Option.bind_eq_some_iff.mp h
    obtain ⟨r, hr, rfl⟩ := Option.map_eq_some_iff.mp h
    cases hread : (Record.decode now data : Except Fault UserRecord) with
    | error f => simp [hread, Except.toOption] at hr
    | ok r' =>
      rw [hread] at hr
      exact ⟨data, r, rfl, by rw [hread, Option.some.inj hr], rfl⟩
  · rintro ⟨data, r, rfl, hread, rfl⟩
    simp [hread, Except.toOption]

theorem factsIn?_encode (now : Instant) (r : UserRecord) :
    factsIn? now (some (Record.encode r)) = some r.facts :=
  factsIn?_eq_some.mpr ⟨_, r.settled, rfl, Record.decode_encode now r, rfl⟩

/-- A user record that a job loads has the facts that lie in the slot. -/
theorem facts_userIn {now : Instant} {slot : Option Octets} {facts : Facts}
    (h : factsIn? now slot = some facts) (rules : Rules) (g : Given) (id : Int64) :
    (rules.userIn g id slot).record.facts = facts := by
  obtain ⟨data, r, rfl, hread, rfl⟩ := factsIn?_eq_some.mp h
  obtain ⟨r', hlater, _, hfacts⟩ := UserRecord.decode_later g.opened hread
  simp [Rules.userIn, Store.recordIn, hlater, hfacts]

/-- The facts of a user after a turn are those before it, with what the updates of the generated
text say. -/
theorem extends_replied (rules : Rules) (now : Instant) (event : Event)
    (generated : Except TurnError String) (user : UserRecord) :
    Facts.Extends (fun n v => ∃ text updates, generated = .ok text ∧
        Directive.update updates ∈ (Reply.parse rules.directives text).directives ∧
        (n, v) ∈ updates) user.facts (rules.replied now event generated user).facts := by
  cases generated with
  | error e =>
    simp only [Rules.replied, facts_recordTurn]
    exact .refl _ _
  | ok text =>
    simp only [Rules.replied, facts_recordTurn]
    refine (extends_learned _ user).mono ?_
    rintro n v ⟨updates, hmem, hin⟩
    exact ⟨text, updates, rfl, hmem, hin⟩

/-- A saved change leaves a readable slot readable, and changes facts only as it may. -/
theorem Entry.extends_mutate {rules : Rules} {e : Entry} {id : Int64} {now : Instant}
    {slot : Option Octets} {facts : Facts} (hkey : e.job.key = ⟨.user, id⟩)
    (hmutators : e.job.UsesMutators) (h : factsIn? now slot = some facts) :
    ∃ facts', factsIn? now (e.mutate rules slot) = some facts' ∧
      Facts.Extends (e.Teaches rules) facts facts' := by
  obtain ⟨caller, job, g⟩ := e
  have hloaded := facts_userIn h rules g
  cases job with
  | editUser i change =>
    refine ⟨_, factsIn?_encode now _, ?_⟩
    rw [← hloaded i]
    exact (hmutators g.opened _).extends_facts
  | editGroup i change => simp [Job.key] at hkey
  | syncName event =>
    simp only [Entry.mutate, Rules.result, nameTold]
    split
    · refine ⟨_, factsIn?_encode now _, ?_⟩
      simp only [named, facts_syncUsername, hloaded]
      exact .refl _ _
    · exact ⟨facts, h, .refl _ _⟩
  | reply event =>
    simp only [Entry.mutate, Rules.result]
    split
    · next closed generated hanswer =>
      refine ⟨_, factsIn?_encode now _, ?_⟩
      have hreplied := extends_replied rules closed event generated
        (named event (rules.userIn g event.sender slot)).record
      rw [named, facts_syncUsername, hloaded] at hreplied
      refine hreplied.mono ?_
      rintro n v ⟨text, updates, rfl, hmem, hin⟩
      exact ⟨closed, text, updates, hanswer, hmem, hin⟩
    · exact ⟨facts, h, .refl _ _⟩

/-! ### Runs -/

namespace World

variable {σ : Type} [Backend σ]

/-- What can happen in a run: a move of a call, a look at a record without its lock, or the agent
being removed from a group. -/
inductive Act
  | work (m : Move)
  | look (kind : RecordKind) (id : Int64)
  | leave (chat : Int64)

def act (now : Instant) (x : Act) (w : World σ) : World σ :=
  match x with
  | .work m => w.move now m
  | .look .user id =>
    { w with agent := { w.agent with store := (w.agent.store.load UserRecord now id).2 } }
  | .look .group id =>
    { w with agent := { w.agent with store := (w.agent.store.load GroupRecord now id).2 } }
  | .leave chat => { w with agent := (w.agent.removed now chat).2 }

def acted (run : List (Instant × Act)) (w : World σ) : World σ :=
  run.foldl (fun w x => w.act x.1 x.2) w

variable [Faithful σ]

def slot (w : World σ) (key : LockKey) : Option Octets := w.agent.content key.slot

/-- Every way in which the slot of a record may come to hold something else: octets that hold no
record are moved aside, or a change of the record in the slot is saved. -/
inductive Changes (rules : Rules) (key : LockKey) (w w' : World σ) : Prop
  | same (hslot : w'.slot key = w.slot key) (hjournal : ∃ made, w'.journal = w.journal ++ made)
  | aside (h : key.Aside w.agent.content w'.agent.content) (hjournal : w'.journal = w.journal)
  | saved (i : Nat) (c : Caller) (e : Entry) (hc : w.callers[i]? = some c)
      (hjob : e.job ∈ c.errand.jobs) (hkey : e.job.key = key)
      (hclear : key.kind.Clear (w.slot key)) (hslot : w'.slot key = e.mutate rules (w.slot key))
      (hjournal : w'.journal = w.journal ++ [e])

variable {rules : Rules} {failing : Prop} {w : World σ} {now : Instant}

theorem Changes.of_visited {w' : World σ} {visited : LockKey}
    (h : visited.Visited w.agent.content w'.agent.content) (hjournal : w'.journal = w.journal)
    (key : LockKey) : Changes rules key w w' := by
  have hmade : ∃ made, w'.journal = w.journal ++ made := ⟨[], by rw [hjournal, List.append_nil]⟩
  by_cases hkey : key = visited
  · subst hkey
    rcases h.own with hsame | haside
    · exact .same hsame hmade
    · exact .aside haside hjournal
  · exact .same (h.others key hkey) hmade

theorem Sound.step_changes (h : w.Sound rules failing) (i : Nat) (key : LockKey) :
    Changes rules key w (w.step now i) := by
  rcases w.step_cases now i with hsame | ⟨c, c', a, entries, hc, hstep, hturn⟩
  · rw [hsame]
    exact .same rfl ⟨[], (List.append_nil _).symm⟩
  · rw [hturn]
    cases hstep with
    | requests hjobs hstage => exact .same rfl ⟨[], rfl⟩
    | notices hjobs hstage hheld => exact .same rfl ⟨[], rfl⟩
    | finishes hjobs hstage => exact .same rfl ⟨[], rfl⟩
    | @loads job rest ticket hjobs hstage =>
      have hstart : Errand.Started now ticket job True w.agent _ _ :=
        started_start job (.inl trivial)
      exact .of_visited hstart.visited (List.append_nil _) key
    | @saves job rest ticket unsaved hjobs hstage =>
      obtain ⟨hfor, g, hgiven, _, hcases⟩ := h.unsaved_cases hc hjobs hstage
      have hcontent := save_content (a := w.agent) hfor
      rcases hcontent with hput | ⟨_, hsame⟩
      · by_cases hkey : key = job.key
        · subst hkey
          have hown : (w.turned i ⟨{ c.errand with stage := .saved ticket }, c.given⟩
              (Errand.save unsaved w.agent)
              (c.given.toList.map fun given => ⟨i, job, given⟩)).slot job.key =
              unsaved.store (w.slot job.key) :=
            (congrFun hput job.key.slot).trans (Function.update_self ..)
          rcases hcases with ⟨_, rfl⟩ | ⟨hclear, rfl⟩
          · exact .same hown ⟨_, rfl⟩
          · refine .saved i c ⟨i, job, g⟩ hc (hjobs ▸ List.mem_cons_self) rfl hclear hown ?_
            rw [hgiven]
            rfl
        · refine .same ((congrFun hput key.slot).trans (Function.update_of_ne ?_ _ _)) ⟨_, rfl⟩
          exact fun heq => hkey (LockKey.slot_injective heq)
      · exact .same (congrFun hsame key.slot) ⟨_, rfl⟩

theorem visited_look (now : Instant) (kind : RecordKind) (id : Int64) (w : World σ) :
    LockKey.Visited ⟨kind, id⟩ w.agent.content (w.act now (.look kind id)).agent.content := by
  cases kind with
  | user =>
    have hvisit := (Store.getOrCreate_loads UserRecord now id w.agent.store).1.visited
    exact hvisit
  | group =>
    have hvisit := (Store.getOrCreate_loads GroupRecord now id w.agent.store).1.visited
    exact hvisit

/-- Every act changes a slot in one of these ways only. -/
theorem Sound.act_changes (h : w.Sound rules failing) (now : Instant) (x : Act) (key : LockKey) :
    Changes rules key w (w.act now x) := by
  cases x with
  | work m =>
    cases m with
    | step i => exact h.step_changes i key
    | answer i generated =>
      rcases answer_cases now i generated w with hsame | ⟨c, ticket, draft, _, _, hanswer⟩
      · refine .same ?_ ⟨[], ?_⟩
        · exact congrArg (fun w : World σ => w.slot key) hsame
        · exact (congrArg World.journal hsame).trans (List.append_nil _).symm
      · obtain ⟨_, hcontent⟩ := finishReply_keeps w.agent now draft generated
        refine .same ?_ ⟨[], ?_⟩
        · exact (congrArg (fun w : World σ => w.slot key) hanswer).trans
            (congrFun hcontent key.slot)
        · exact (congrArg World.journal hanswer).trans (List.append_nil _).symm
    | pass time => exact .same rfl ⟨[], (List.append_nil _).symm⟩
  | look kind id =>
    cases kind with
    | user => exact .of_visited (visited_look now .user id w) rfl key
    | group => exact .of_visited (visited_look now .group id w) rfl key
  | leave chat =>
    refine .same ?_ ⟨[], (List.append_nil _).symm⟩
    exact congrFun (Store.fetch_fetches GroupRecord now chat w.agent.store).2.1 key.slot

theorem Sound.of_store (h : w.Sound rules failing) {store : Store σ}
    (hsettings : store.settings = w.agent.store.settings)
    (husers : Store.Keyed UserRecord store.content)
    (hgroups : Store.Keyed GroupRecord store.content)
    (hslots : ∀ key : LockKey, store.content key.slot = w.agent.content key.slot ∨
      key.Aside w.agent.content store.content) :
    ({ w with agent := { w.agent with store } } : World σ).Sound rules failing where
  locked := h.locked
  ruled := (congrArg (Rules.mk · w.agent.directives w.agent.model) hsettings).trans h.ruled
  users := husers
  groups := hgroups
  fits hc := (h.fits hc).frame (fun _ _ _ _ hs => .inl hs) fun _ key _ _ => hslots key
  apart := h.apart

theorem Sound.look (h : w.Sound rules failing) {R : Type} [Record R] [Record.Steady R] (id : Int64) :
    ({ w with agent := { w.agent with store := (w.agent.store.load R now id).2 } } : World σ).Sound
      rules failing := by
  obtain ⟨hloads, hsettings⟩ := Store.getOrCreate_loads R now id w.agent.store
  have hvisit := hloads.visited
  refine h.of_store hsettings (h.users.of_visited hvisit) (h.groups.of_visited hvisit) fun key => ?_
  by_cases hkey : key = ⟨Record.kind R, id⟩
  · subst hkey
    exact hvisit.own
  · exact .inl (hvisit.others key hkey)

/-- Every act keeps a world sound, where failures are taken into account. -/
theorem Sound.act (h : w.Sound rules True) (x : Act) : (w.act now x).Sound rules True := by
  cases x with
  | work m => exact h.move (.inl trivial)
  | look kind id =>
    cases kind with
    | user => exact h.look id
    | group => exact h.look id
  | leave chat =>
    obtain ⟨_, hcontent, hsettings⟩ := Store.fetch_fetches GroupRecord now chat w.agent.store
    exact h.of_store hsettings (hcontent ▸ h.users) (hcontent ▸ h.groups) fun key =>
      .inl (congrFun hcontent key.slot)

/-! ### Jobs -/

omit [Faithful σ] in
/-- A caller has only jobs that it had before an act. -/
theorem jobs_act (x : Act) {j : Nat} {d : Caller} (hd : (w.act now x).callers[j]? = some d) :
    ∃ c, w.callers[j]? = some c ∧ d.errand.jobs ⊆ c.errand.jobs := by
  have hset : ∀ {i : Nat} {c c' : Caller}, w.callers[i]? = some c →
      c'.errand.jobs ⊆ c.errand.jobs → (w.callers.set i c')[j]? = some d →
      ∃ c, w.callers[j]? = some c ∧ d.errand.jobs ⊆ c.errand.jobs := by
    intro i c c' hc hsub hd
    by_cases hij : i = j
    · subst hij
      have hi : i < w.callers.length := (List.getElem?_eq_some_iff.mp hc).1
      rw [List.getElem?_set_self hi] at hd
      exact ⟨c, hc, Option.some.inj hd ▸ hsub⟩
    · rw [List.getElem?_set_ne hij] at hd
      exact ⟨d, hd, fun _ h => h⟩
  cases x with
  | work m =>
    cases m with
    | step i =>
      rcases w.step_cases now i with hsame | ⟨c, c', a, entries, hc, hstep, hturn⟩
      · have hcallers := congrArg World.callers hsame
        exact ⟨d, hcallers ▸ hd, fun _ h => h⟩
      · have hcallers := congrArg World.callers hturn
        refine hset hc ?_ (hcallers ▸ hd)
        cases hstep with
        | finishes hjobs hstage => exact hjobs ▸ List.subset_cons_self _ _
        | _ => exact fun _ h => h
    | answer i generated =>
      rcases answer_cases now i generated w with hsame | ⟨c, ticket, draft, hc, _, hanswer⟩
      · have hcallers := congrArg World.callers hsame
        exact ⟨d, hcallers ▸ hd, fun _ h => h⟩
      · have hcallers : (w.act now (.work (.answer i generated))).callers = _ :=
          congrArg World.callers hanswer
        rw [hcallers] at hd
        refine hset hc ?_ hd
        exact fun _ h => h
    | pass time => exact ⟨d, hd, fun _ h => h⟩
  | look kind id =>
    cases kind <;> exact ⟨d, hd, fun _ h => h⟩
  | leave chat => exact ⟨d, hd, fun _ h => h⟩

def UsesMutators (w : World σ) : Prop :=
  ∀ {i : Nat} {c : Caller}, w.callers[i]? = some c → ∀ job ∈ c.errand.jobs, job.UsesMutators

omit [Faithful σ] in
theorem UsesMutators.act (h : w.UsesMutators) (x : Act) : (w.act now x).UsesMutators := by
  intro i d hd job hjob
  obtain ⟨c, hc, hsub⟩ := jobs_act x hd
  exact h hc job (hsub hjob)

/-! ### What survives -/

/-- An act leaves a readable user slot readable, and changes its facts only as a change that is saved
in it may. -/
theorem Sound.act_facts (h : w.Sound rules failing) (hmutators : w.UsesMutators) (now : Instant)
    (x : Act) {t : Instant} {id : Int64} {facts : Facts}
    (hfacts : factsIn? t (w.slot ⟨.user, id⟩) = some facts) :
    ∃ facts' made, factsIn? t ((w.act now x).slot ⟨.user, id⟩) = some facts' ∧
      (w.act now x).journal = w.journal ++ made ∧
      Facts.Extends (fun n v => ∃ e ∈ made, e.job.key = ⟨.user, id⟩ ∧ e.Teaches rules n v)
        facts facts' := by
  rcases h.act_changes now x ⟨.user, id⟩ with
    ⟨hslot, made, hjournal⟩ | ⟨⟨data, _, hdata, hunread, _⟩, _⟩ |
    ⟨i, c, e, hc, hjob, hkey, _, hslot, hjournal⟩
  · exact ⟨facts, made, hslot ▸ hfacts, hjournal, .refl _ _⟩
  · obtain ⟨data', r, hdata', hread, _⟩ := factsIn?_eq_some.mp hfacts
    obtain rfl : data = data' := Option.some.inj (hdata.symm.trans hdata')
    exact absurd ⟨t, r, hread⟩ hunread
  · obtain ⟨facts', hfacts', hextends⟩ := Entry.extends_mutate hkey (hmutators hc _ hjob) hfacts
    refine ⟨facts', [e], hslot ▸ hfacts', hjournal, hextends.mono fun n v hteach => ?_⟩
    exact ⟨e, List.mem_singleton_self e, hkey, hteach⟩

theorem Sound.acted (h : w.Sound rules True) (run : List (Instant × Act)) :
    (w.acted run).Sound rules True := by
  induction run generalizing w with
  | nil => exact h
  | cons x run ih => exact ih (h.act x.2)

omit [Faithful σ] in
theorem UsesMutators.acted (h : w.UsesMutators) (run : List (Instant × Act)) :
    (w.acted run).UsesMutators := by
  induction run generalizing w with
  | nil => exact h
  | cons x run ih => exact ih (h.act x.2)

theorem Sound.acted_facts (h : w.Sound rules True) (hmutators : w.UsesMutators)
    (run : List (Instant × Act)) {t : Instant} {id : Int64} {facts : Facts}
    (hfacts : factsIn? t (w.slot ⟨.user, id⟩) = some facts) :
    ∃ facts' made, factsIn? t ((w.acted run).slot ⟨.user, id⟩) = some facts' ∧
      (w.acted run).journal = w.journal ++ made ∧
      Facts.Extends (fun n v => ∃ e ∈ made, e.job.key = ⟨.user, id⟩ ∧ e.Teaches rules n v)
        facts facts' := by
  induction run generalizing w facts with
  | nil => exact ⟨facts, [], hfacts, (List.append_nil _).symm, .refl _ _⟩
  | cons x run ih =>
    obtain ⟨facts₁, made₁, hfacts₁, hjournal₁, hextends₁⟩ :=
      h.act_facts hmutators x.1 x.2 hfacts
    obtain ⟨facts₂, made₂, hfacts₂, hjournal₂, hextends₂⟩ :=
      ih (h.act x.2) (hmutators.act x.2) hfacts₁
    refine ⟨facts₂, made₁ ++ made₂, hfacts₂, ?_, ?_⟩
    · rw [← List.append_assoc, ← hjournal₁]
      exact hjournal₂
    · refine (hextends₁.mono ?_).trans (hextends₂.mono ?_)
      · exact fun n v ⟨e, he, hteach⟩ => ⟨e, List.mem_append.mpr (.inl he), hteach⟩
      · exact fun n v ⟨e, he, hteach⟩ => ⟨e, List.mem_append.mpr (.inr he), hteach⟩

/-- Octets that hold no record stay in their slot through a run, or an act of it moves them aside. -/
theorem Sound.acted_unreadable (h : w.Sound rules True) (run : List (Instant × Act)) {key : LockKey}
    {data : Octets} (hdata : w.slot key = some data) (hunread : ¬ key.kind.Holds data) :
    (w.acted run).slot key = some data ∨ ∃ before x later, run = before ++ x :: later ∧
      key.Aside (w.acted before).agent.content (w.acted (before ++ [x])).agent.content ∧
      (w.acted before).slot key = some data := by
  induction run generalizing w with
  | nil => exact .inl hdata
  | cons x run ih =>
    rcases h.act_changes x.1 x.2 key with
      ⟨hslot, _⟩ | ⟨haside, _⟩ | ⟨_, _, _, _, _, _, hclear, _⟩
    · rcases ih (h.act x.2) (hslot.trans hdata) with hkept | ⟨before, y, later, rfl, hmoved⟩
      · exact .inl hkept
      · exact .inr ⟨x :: before, y, later, rfl, hmoved⟩
    · exact .inr ⟨[], x, run, rfl, haside, hdata⟩
    · exact absurd (hclear data hdata) hunread

/-- Whatever the backend does to the calls of a run, a user record that is in its slot at some point
is followed by one there at every later point. No fact is lost on the way, and one that is new or
has another value got it from a change saved in that slot: an update call, or a turn of that user
whose generated text says so. No act changes a slot but by moving octets aside that hold no record
or by saving a change of what lies there, so what is made up for a slot that cannot be read is never
saved; octets that hold no record stay where they are until they are moved aside. -/
theorem facts_survive (agent : Agent σ) (calls : List Call) (hlocks : agent.locks = {})
    (husers : Store.Keyed UserRecord agent.content)
    (hgroups : Store.Keyed GroupRecord agent.content)
    (hcalls : ∀ call ∈ calls, call.UsesMutators) (run later : List (Instant × Act)) :
    let w := (start agent calls).acted run
    (∀ (t : Instant) (id : Int64) (facts : Facts),
      factsIn? t (w.slot ⟨.user, id⟩) = some facts →
      ∃ facts' made, factsIn? t ((w.acted later).slot ⟨.user, id⟩) = some facts' ∧
        (w.acted later).journal = w.journal ++ made ∧
        (∀ name, (facts.get? name).isSome = true → (facts'.get? name).isSome = true) ∧
        ∀ name value, facts'.get? name = some value → facts.get? name = some value ∨
          ∃ e ∈ made, e.job.key = ⟨.user, id⟩ ∧ e.Teaches agent.rules name value) ∧
    (∀ (now : Instant) (x : Act) (key : LockKey), Changes agent.rules key w (w.act now x)) ∧
    ∀ (key : LockKey) (data : Octets), w.slot key = some data → ¬ key.kind.Holds data →
      (w.acted later).slot key = some data ∨ ∃ before x rest, later = before ++ x :: rest ∧
        key.Aside (w.acted before).agent.content (w.acted (before ++ [x])).agent.content ∧
        (w.acted before).slot key = some data := by
  have hstart : (start agent calls).Sound agent.rules True := sound_start hlocks husers hgroups
  have hmutators : (start agent calls).UsesMutators := by
    intro i c hc job hjob
    obtain ⟨call, hcall, rfl⟩ := List.mem_map.mp (List.mem_of_getElem? hc)
    exact (hcalls call hcall).errand _ job hjob
  have hsound := hstart.acted run
  refine ⟨fun t id facts hfacts => ?_, fun now x key => hsound.act_changes now x key,
    fun key data hdata hunread => hsound.acted_unreadable later hdata hunread⟩
  obtain ⟨facts', made, hfacts', hjournal, hextends⟩ :=
    hsound.acted_facts (hmutators.acted run) later hfacts
  refine ⟨facts', made, hfacts', hjournal, fun name => hextends.keeps, fun name value hvalue => ?_⟩
  rcases hextends name with hsame | ⟨value', hvalue', hteach⟩
  · exact .inl (hsame ▸ hvalue)
  · obtain rfl : value' = value := Option.some.inj (hvalue'.symm.trans hvalue)
    exact .inr hteach

def sampleUser : UserRecord :=
  ⟨7, none, "en", Table.empty.insert "color" "green", [], ⟨epoch, 0, 0, isMoment_zero⟩⟩

/-- An agent that keeps one record, in slots that fail the first read. -/
def sampleAgent : Agent (Unreliable Memory) where
  store := {
    slots := {
      slots := Table.empty.insert (Store.address UserRecord sampleUser.id)
        (Record.encode sampleUser)
      stepwise := true
      fails := fun n kind => n == 0 && kind == .read } }

theorem content_sampleAgent : sampleAgent.content = Function.update (fun _ => none)
    (Store.address UserRecord sampleUser.id) (some (Record.encode sampleUser)) :=
  Memory.content_insert Table.empty _ _

/-- The fact outlives a turn whose load fails. -/
theorem facts_survive_failed_load :
    let w := (start sampleAgent [.message sampleUser.lastInteraction (.ofPrivate 7 "Ada" "hello")])
    ∃ facts, factsIn? sampleUser.lastInteraction ((w.acted (List.replicate 6
      (sampleUser.lastInteraction, .work (.step 0)))).slot ⟨.user, 7⟩) = some facts ∧
      (facts.get? "color").isSome = true := by
  have hnone : ∀ (R : Type) [Record R], Store.Keyed R fun _ => none :=
    fun R _ _ _ _ _ h => nomatch h
  have husers : Store.Keyed UserRecord sampleAgent.content := by
    rw [content_sampleAgent]
    exact (hnone UserRecord).saved sampleUser
  have hgroups : Store.Keyed GroupRecord sampleAgent.content := by
    rw [content_sampleAgent]
    exact Store.Keyed.of_other (hnone GroupRecord) (by nofun : (LockKey.mk .user 7).kind ≠ _) _
  have hslot : sampleAgent.content (LockKey.slot ⟨.user, 7⟩) = some (Record.encode sampleUser) := by
    rw [content_sampleAgent]
    exact Function.update_self ..
  obtain ⟨hfacts, _⟩ := facts_survive sampleAgent
    [.message sampleUser.lastInteraction (.ofPrivate 7 "Ada" "hello")] rfl husers hgroups
    (by simp [Call.UsesMutators]) []
    (List.replicate 6 (sampleUser.lastInteraction, .work (.step 0)))
  obtain ⟨facts, _, hlater, _, hkeeps, _⟩ := hfacts sampleUser.lastInteraction 7 sampleUser.facts
    ((congrArg (factsIn? _) hslot).trans (factsIn?_encode _ _))
  refine ⟨facts, hlater, hkeeps "color" ?_⟩
  simp [sampleUser, Table.get?_insert]

end World

end Companion
