import Companion.Proofs.AlikeTurns
import Companion.Proofs.SavedRuns

/-!
Discretion. Whatever other users have told the agent, and whatever was said in groups, a turn tells the
model nothing of it, and nothing that comes of the turn depends on it. The one exception is what is
known about the user whom the message mentions: that is told. Times of day do not matter either.
-/

namespace Companion

open Number Text Time Json

/-! ### Steps -/

section Steps

variable {event : Event} {hidden : String → Prop} {paired : Instant → Instant → Prop}
  {a b : Agent Medium} {now now' : Instant} {t t' : Errand}

/-- What an errand does next it does on both sides. -/
theorem Errand.Alike.step? (ht : t.Alike event t') (h : a.Resembles event.sender hidden paired b)
    (hpaired : paired now now')
    (hopen : ∀ rest ticket, t.jobs = .reply event :: rest → t.stage = .holding ticket →
      ∀ e, a.consults? now event = some e → ¬ hidden e.1) :
    Option.Rel (fun x y => x.1.Alike event y.1 ∧ x.2.Resembles event.sender hidden paired y.2)
      (t.step? now a) (t'.step? now' b) := by
  obtain ⟨jobs, stage, outcome⟩ := t
  obtain ⟨jobs', stage', outcome'⟩ := t'
  obtain ⟨hjobs, hstage, houtcome⟩ := ht
  have hlocked : ∀ locks, ({ a with locks } : Agent Medium).Resembles event.sender hidden paired
      { b with locks } := fun _ => ⟨h.store, rfl, h.schedule, h.directives, h.model⟩
  cases hjobs with
  | nil => exact .none
  | @cons job job' rest rest' hjob hrest =>
    cases hstage with
    | ready =>
      dsimp only [Errand.step?]
      rw [h.locks, ← hjob.key]
      exact .some ⟨⟨.cons hjob hrest, .waiting _, houtcome⟩, hlocked _⟩
    | waiting ticket =>
      dsimp only [Errand.step?]
      rw [h.locks]
      split
      · exact .some ⟨⟨.cons hjob hrest, .holding ticket, houtcome⟩, hlocked _⟩
      · exact .none
    | holding ticket =>
      obtain ⟨hnext, hafter⟩ := h.start hpaired hjob ticket fun hreply =>
        hopen rest ticket (congrArg (· :: rest) hreply) rfl
      exact .some ⟨⟨.cons hjob hrest, hnext, houtcome⟩, hafter⟩
    | asking ticket hdraft => exact .none
    | changed ticket hunsaved =>
      exact .some ⟨⟨.cons hjob hrest, .saved ticket, houtcome⟩, h.save hunsaved⟩
    | saved ticket =>
      dsimp only [Errand.step?]
      rw [h.locks]
      exact .some ⟨⟨hrest, .ready, houtcome⟩, hlocked _⟩

theorem Stage.Alike.context {stage stage' : Stage} (h : stage.Alike stage') (jobs jobs' : List Job)
    (outcome outcome' : Outcome) :
    (⟨jobs, stage, outcome⟩ : Errand).question?.map (·.context) =
      (⟨jobs', stage', outcome'⟩ : Errand).question?.map (·.context) := by
  cases h with
  | asking ticket hdraft => exact congrArg some hdraft.context
  | _ => rfl

/-- An errand waits with the same question on both sides. -/
theorem Errand.Alike.context (ht : t.Alike event t') :
    t.question?.map (·.context) = t'.question?.map (·.context) :=
  ht.stage.context t.jobs t'.jobs t.outcome t'.outcome

/-- An answer does the same on both sides. -/
theorem Errand.Alike.answered (ht : t.Alike event t') (h : a.Resembles event.sender hidden paired b)
    (now now' : Instant) (generated : Except TurnError String) :
    (t.answered now generated a).1.Alike event (t'.answered now' generated b).1 ∧
      (t.answered now generated a).2.Resembles event.sender hidden paired
        (t'.answered now' generated b).2 := by
  obtain ⟨jobs, stage, outcome⟩ := t
  obtain ⟨jobs', stage', outcome'⟩ := t'
  obtain ⟨hjobs, hstage, houtcome⟩ := ht
  cases hstage with
  | asking ticket hdraft =>
    obtain ⟨hloaded, hmade, hafter⟩ := h.finishReply hdraft now now' generated
    exact ⟨⟨hjobs, .changed ticket (.ofUser hloaded), hmade⟩, hafter⟩
  | ready => exact ⟨⟨hjobs, .ready, houtcome⟩, h⟩
  | waiting ticket => exact ⟨⟨hjobs, .waiting ticket, houtcome⟩, h⟩
  | holding ticket => exact ⟨⟨hjobs, .holding ticket, houtcome⟩, h⟩
  | changed ticket hunsaved => exact ⟨⟨hjobs, .changed ticket hunsaved, houtcome⟩, h⟩
  | saved ticket => exact ⟨⟨hjobs, .saved ticket, houtcome⟩, h⟩

/-- The errands for an event do the same. -/
theorem Errand.alike_ofEvent (event : Event) (asked asked' : Instant) (settings : RecordSettings) :
    (ofEvent asked settings event).Alike event (ofEvent asked' settings event) := by
  refine ⟨?_, .ready, rfl, rfl, rfl, rfl⟩
  dsimp only [ofEvent]
  refine List.rel_append ?_ ?_
  · split
    · refine .cons (.group ..) ?_
      split
      · exact .cons .syncName .nil
      · exact .nil
    · exact .nil
  · split
    · exact .cons .reply .nil
    · exact .nil

end Steps

/-! ### One turn -/

/-- What can happen to a turn that goes on alone: it takes its next step, it gets its answer, or time
goes by. -/
inductive Nudge
  | step
  | answer
  | pass (time : Nat)

namespace World

def asks? {σ : Type} (w : World σ) : Option Context :=
  (w.callers[0]?).bind fun c => c.errand.question?.map (·.context)

def outcome? {σ : Type} (w : World σ) : Option Outcome := (w.callers[0]?).map (·.errand.outcome)

/-- The slot that a turn is about to look up because its message mentions the user. -/
def consults? (now : Instant) (w : World Medium) : Option (String × UserRecord) :=
  (w.callers[0]?).bind fun c =>
    match c.errand.jobs, c.errand.stage with
    | .reply event :: _, .holding _ => w.agent.consults? now event
    | _, _ => none

variable {σ : Type} [Backend σ]

/-- The world after a nudge, where the model answers by a function of what it is told. -/
def nudged (generate : Context → Except TurnError String) (now : Instant) (w : World σ) :
    Nudge → World σ
  | .step => w.step now 0
  | .answer =>
    match w.asks? with
    | some context => w.answer now 0 (generate context)
    | none => w
  | .pass time => w.move now (.pass time)

def driven (generate : Context → Except TurnError String) (run : List (Instant × Nudge)) (w : World σ) :
    World σ :=
  run.foldl (fun w x => w.nudged generate x.1 x.2) w

/-- No slot that is looked up in a run, because the message mentions its user, is hidden. -/
def Discreet (generate : Context → Except TurnError String) (hidden : String → Prop) :
    World Medium → List (Instant × Nudge) → Prop
  | _, [] => True
  | w, x :: run => (x.2 = .step → ∀ e, w.consults? x.1 = some e → ¬ hidden e.1) ∧
      Discreet generate hidden (w.nudged generate x.1 x.2) run

/-- Two worlds with one turn each, which has come to the same in both. -/
structure Resembles (event : Event) (hidden : String → Prop) (paired : Instant → Instant → Prop)
    (w w' : World Medium) : Prop where
  agent : w.agent.Resembles event.sender hidden paired w'.agent
  callers : ∃ c c', w.callers = [c] ∧ w'.callers = [c'] ∧ c.errand.Alike event c'.errand

namespace Resembles

variable {event : Event} {hidden : String → Prop} {paired : Instant → Instant → Prop}
  {w w' : World Medium} {now now' : Instant}

theorem asks? (h : w.Resembles event hidden paired w') : w.asks? = w'.asks? := by
  obtain ⟨c, c', hc, hc', halike⟩ := h.callers
  rw [World.asks?, World.asks?, hc, hc']
  exact halike.context

theorem step (h : w.Resembles event hidden paired w') (hpaired : paired now now')
    (hopen : ∀ e, w.consults? now = some e → ¬ hidden e.1) :
    (w.step now 0).Resembles event hidden paired (w'.step now' 0) := by
  obtain ⟨c, c', hc, hc', halike⟩ := h.callers
  have hstep := halike.step? h.agent hpaired fun rest ticket hjobs hstage => by
    have hconsults : w.consults? now = w.agent.consults? now event := by
      rw [World.consults?, hc]
      simp only [List.getElem?_cons_zero, Option.bind_some, hjobs, hstage]
    rw [← hconsults]
    exact hopen
  have hget : w.callers[0]? = some c := by rw [hc]; rfl
  have hget' : w'.callers[0]? = some c' := by rw [hc']; rfl
  unfold World.step
  rw [hget, hget']
  dsimp only
  generalize c.errand.step? now w.agent = x at hstep ⊢
  generalize c'.errand.step? now' w'.agent = x' at hstep ⊢
  cases hstep with
  | none => exact h
  | @some x x' hnext =>
    have herrand : ∀ (u : Instant) (t : Errand) (k : Caller), (k.stepped u t).errand = t := by
      intro u t k
      unfold Caller.stepped
      split <;> rfl
    refine ⟨hnext.2, c.stepped now x.1, c'.stepped now' x'.1, ?_, ?_, ?_⟩
    · exact congrArg (List.set · 0 (c.stepped now x.1)) hc
    · exact congrArg (List.set · 0 (c'.stepped now' x'.1)) hc'
    · rw [herrand, herrand]
      exact hnext.1

theorem answer (h : w.Resembles event hidden paired w') (now now' : Instant)
    (generated : Except TurnError String) :
    (w.answer now 0 generated).Resembles event hidden paired (w'.answer now' 0 generated) := by
  obtain ⟨c, c', hc, hc', halike⟩ := h.callers
  obtain ⟨hnext, hafter⟩ := halike.answered h.agent now now' generated
  have hasks : c.errand.question?.isSome = c'.errand.question?.isSome := by
    simpa only [Option.isSome_map] using congrArg Option.isSome halike.context
  have hget : w.callers[0]? = some c := by rw [hc]; rfl
  have hget' : w'.callers[0]? = some c' := by rw [hc']; rfl
  unfold World.answer
  rw [hget, hget']
  dsimp only
  rw [← hasks]
  split
  · exact ⟨hafter, _, _, congrArg (List.set · 0 _) hc, congrArg (List.set · 0 _) hc', hnext⟩
  · exact h

theorem pass (h : w.Resembles event hidden paired w') (now now' : Instant) (time : Nat) :
    (w.move now (.pass time)).Resembles event hidden paired (w'.move now' (.pass time)) := by
  refine ⟨⟨⟨h.agent.store.kind, h.agent.store.settings, h.agent.store.slots, h.agent.store.places⟩,
    h.agent.locks, ?_, h.agent.directives, h.agent.model⟩, h.callers⟩
  exact congrArg (fun s : Schedule Delivery => (s.reach time).2) h.agent.schedule

/-- A nudge does the same on both sides. -/
theorem nudged (h : w.Resembles event hidden paired w') (generate : Context → Except TurnError String)
    (hpaired : paired now now') (nudge : Nudge)
    (hopen : nudge = .step → ∀ e, w.consults? now = some e → ¬ hidden e.1) :
    (w.nudged generate now nudge).Resembles event hidden paired (w'.nudged generate now' nudge) := by
  cases nudge with
  | step => exact h.step hpaired (hopen rfl)
  | pass time => exact h.pass now now' time
  | answer =>
    dsimp only [World.nudged]
    rw [← h.asks?]
    cases w.asks? with
    | none => exact h
    | some context => exact h.answer now now' (generate context)

theorem outcome? (h : w.Resembles event hidden paired w') :
    Option.Rel Outcome.Alike w.outcome? w'.outcome? := by
  obtain ⟨c, c', hc, hc', halike⟩ := h.callers
  rw [World.outcome?, World.outcome?, hc, hc']
  exact .some halike.outcome

theorem leaves (h : w.Resembles event hidden paired w') : (w.leaves 0).Alike (w'.leaves 0) := by
  obtain ⟨⟨⟨jobs, stage, _⟩, _⟩, ⟨⟨jobs', stage', _⟩, _⟩, hc, hc', hjobs, hstage, _⟩ := h.callers
  rw [World.leaves, World.leaves, hc, hc']
  cases hjobs with
  | nil => exact .none
  | cons _ _ =>
    cases hstage with
    | changed ticket hunsaved => exact hunsaved
    | _ => exact .none

/-- Whatever happens to a turn does the same on both sides. -/
theorem driven (h : w.Resembles event hidden paired w') (generate : Context → Except TurnError String)
    {run : List (Nudge × Instant × Instant)} (hpaired : ∀ x ∈ run, paired x.2.1 x.2.2)
    (hopen : w.Discreet generate hidden (run.map fun x => (x.2.1, x.1))) :
    (w.driven generate (run.map fun x => (x.2.1, x.1))).Resembles event hidden paired
      (w'.driven generate (run.map fun x => (x.2.2, x.1))) := by
  induction run generalizing w w' with
  | nil => exact h
  | cons x run ih =>
    obtain ⟨hnow, hlater⟩ := hopen
    exact ih (h.nudged generate (hpaired x List.mem_cons_self) x.1 hnow)
      (fun y hy => hpaired y (List.mem_cons_of_mem x hy)) hlater

end Resembles

/-- A turn goes the same way for two agents that look the same to the sender of its message. They may
know different things about other users, in slots that are hidden; they may have said different things
to other users and heard different things in groups; and it may be another time of day. As long as the
slot of the user whom the message mentions is not hidden, the model is told the same, the outcome is the
same, and the record of the sender becomes the same, at every point of the turn and whatever the model
makes of what it is told. -/
theorem turn_discreet (generate : Context → Except TurnError String) (hidden : String → Prop)
    (event : Event) (asked asked' : Instant) {a b : Agent Medium}
    (run : List (Nudge × Instant × Instant))
    (hsame : a.Resembles event.sender hidden (fun now now' => ∃ nudge, (nudge, now, now') ∈ run) b)
    (hopen : (start a [.message asked event]).Discreet generate hidden
      (run.map fun x => (x.2.1, x.1))) :
    let w := (start a [.message asked event]).driven generate (run.map fun x => (x.2.1, x.1))
    let w' := (start b [.message asked' event]).driven generate (run.map fun x => (x.2.2, x.1))
    w.asks? = w'.asks? ∧ Option.Rel Outcome.Alike w.outcome? w'.outcome? ∧
      (w.leaves 0).Alike (w'.leaves 0) ∧ w.agent.schedule = w'.agent.schedule ∧
      Option.Rel (HoldRelated UserRecord.Alike)
        (w.agent.content (Store.address UserRecord event.sender))
        (w'.agent.content (Store.address UserRecord event.sender)) := by
  have hstart : (start a [.message asked event]).Resembles event hidden
      (fun now now' => ∃ nudge, (nudge, now, now') ∈ run) (start b [.message asked' event]) := by
    refine ⟨hsame, _, _, rfl, rfl, ?_⟩
    have hsettings : b.store.settings = a.store.settings := hsame.store.settings
    dsimp only [Call.errand]
    rw [hsettings]
    exact Errand.alike_ofEvent event asked asked' a.store.settings
  have hend := hstart.driven generate (fun x hx => ⟨x.1, hx⟩) hopen
  exact ⟨hend.asks?, hend.outcome?, hend.leaves, hend.agent.schedule.symm, hend.agent.store.slots.own⟩

def mentioningBob : Event := .ofPrivate 7 "Ada" "what does @bob like?"

def bob (history : List HistoryEntry) : UserRecord :=
  ⟨8, some "Bob", "en", Table.empty.insert "likes" "tea", history, sampleUser.lastInteraction⟩

def eve (facts : Facts) : UserRecord := ⟨9, some "Eve", "en", facts, [], sampleUser.lastInteraction⟩

def knowing (history : List HistoryEntry) (facts : Facts) : Agent Medium where
  store := { slots := .memory ((Table.empty.insert (Store.address UserRecord 8)
    (Record.encode (bob history))).insert (Store.address UserRecord 9) (Record.encode (eve facts))) }

/-- A turn that gets to its answer, at a time of day that is another one on the other side. -/
def twice : List (Nudge × Instant × Instant) :=
  [.step, .step, .step, .answer].map fun nudge =>
    (nudge, ⟨epoch, 0, 0, isMoment_zero⟩, sampleUser.lastInteraction)

theorem knowing_resembles (history history' : List HistoryEntry) (facts facts' : Facts)
    (paired : Instant → Instant → Prop) :
    (knowing history facts).Resembles 7 (· = writeIdentifier 9) paired (knowing history' facts') := by
  have hcontent : ∀ history facts, (knowing history facts).store.content = Function.update
      (Function.update (fun _ => none) ⟨RecordKind.user.space, writeIdentifier 8⟩
        (some (Record.encode (bob history))))
      ⟨RecordKind.user.space, writeIdentifier 9⟩ (some (Record.encode (eve facts))) := by
    intro history facts
    change Memory.content _ = _
    rw [Memory.content_insert, Memory.content_insert]
    rfl
  have hempty : ResemblingSlots 7 (· = writeIdentifier 9) (fun _ => none) (fun _ => none) :=
    ⟨.none, fun _ => .none⟩
  have hbob : (bob history).Resembles (writeIdentifier 8 = writeIdentifier 9) (bob history') :=
    ⟨rfl, rfl, fun _ => rfl⟩
  have heve : (eve facts).Resembles (writeIdentifier 9 = writeIdentifier 9) (eve facts') :=
    ⟨rfl, rfl, fun hopen => absurd rfl hopen⟩
  have hkind : ∀ history facts, (knowing history facts).store.slots.kind = .memory := fun _ _ => rfl
  refine ⟨⟨(hkind _ _).trans (hkind _ _).symm, rfl, ?_, .inr (.inl (hkind _ _))⟩, rfl, rfl, rfl, rfl⟩
  rw [hcontent, hcontent]
  exact (hempty.update_user _ (.some (.encode hbob.settled)) fun h => absurd h (by decide)).update_user
    _ (.some (.encode heve.settled)) fun h => absurd h (by decide)

/-- The model repeats what it is told about Bob, which is the same whatever was said to him and whatever
is known of Eve. -/
theorem turn_discreet_mention :
    let repeating := fun context : Context => Except.ok (Templates.otherSection context.other)
    let w := (start (knowing [] .empty) [.message sampleUser.lastInteraction mentioningBob]).driven
      repeating (twice.map fun x => (x.2.1, x.1))
    let w' := (start (knowing [⟨.user, "hello", sampleUser.lastInteraction⟩]
      (Table.empty.insert "hides" "tea")) [.message sampleUser.lastInteraction mentioningBob]).driven
      repeating (twice.map fun x => (x.2.2, x.1))
    (w.leaves 0).user?.isSome ∧ (w.leaves 0).Alike (w'.leaves 0) := by
  intro repeating w w'
  have hopen : ∀ {x : Option (String × UserRecord)}, x.map Prod.fst ≠ some (writeIdentifier 9) →
      ∀ e, x = some e → ¬ e.1 = writeIdentifier 9 := by
    rintro _ hx e rfl he
    exact hx (congrArg some he)
  have hdiscreet : Discreet repeating (· = writeIdentifier 9)
      (start (knowing [] .empty) [.message sampleUser.lastInteraction mentioningBob])
      (twice.map fun x => (x.2.1, x.1)) :=
    ⟨fun _ => hopen (by decide +kernel), ⟨fun _ => hopen (by decide +kernel),
      ⟨fun _ => hopen (by decide +kernel), ⟨nofun, trivial⟩⟩⟩⟩
  obtain ⟨-, -, hleaves, -⟩ := turn_discreet repeating (· = writeIdentifier 9) mentioningBob
    sampleUser.lastInteraction sampleUser.lastInteraction twice (knowing_resembles _ _ _ _ _) hdiscreet
  exact ⟨by decide +kernel, hleaves⟩

end World

end Companion
