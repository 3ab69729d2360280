import Companion.Proofs.Backups
import Companion.Proofs.LoadSteps
import Companion.Proofs.SavedRuns

/-!
Worlds in which loads go call by call. A load of a caller under its lock, and a load that takes no lock,
make their calls one at a time, and anything may happen between two of them. Only what a turn reads
of other records for the question to the model is read at once: it is written nowhere, and the model
may answer anything. Loads that nothing comes between do what they do in a world.
-/

namespace Companion

open Number Text Time Json

/-! ### Worlds in which loads go call by call -/

/-- A job that loads its record, and how far it has come. -/
structure Opening where
  job : Job
  progress : Progress job.key.kind.Of := .fetching

def Opening.load (o : Opening) : Load := ⟨o.job.key, o.progress⟩

/-- The job of a caller that has its lock and has not gone on with its record yet. -/
def Caller.opens? (c : Caller) : Option (Job × Nat) :=
  match c.errand.jobs, c.errand.stage with
  | job :: _, .holding ticket => some (job, ticket)
  | _, _ => none

/-- A world with the loads that are under way: those that take no lock, in the order in which they
began, and those of callers. -/
structure Bustle where
  world : World Memory
  looks : List Load := []
  openings : Nat → Option Opening := fun _ => none

namespace Bustle

/-- What can happen: a move of the world, where a load of a caller takes a move for every call, or a
load without a lock begins, or makes its next call. -/
inductive Deed
  | move (m : World.Move)
  | look (key : LockKey)
  | call (look : Nat)

def withStore (b : Bustle) (store : Store Memory) : Bustle :=
  { b with world := { b.world with agent := { b.world.agent with store } } }

def proceed (now : Instant) (i : Nat) (c : Caller) (ticket : Nat) (job : Job)
    (found : Loaded job.key.kind.Of) (b : Bustle) : Bustle :=
  let (stage, agent) := job.proceed now ticket b.world.agent found
  { b with
    world := b.world.turned i ⟨{ c.errand with stage }, some ⟨now, none⟩⟩ agent []
    openings := Function.update b.openings i none }

/-- The next call of the load of a caller, or what the caller does once it has loaded. -/
def advance (now : Instant) (i : Nat) (c : Caller) (ticket : Nat) (o : Opening) (b : Bustle) :
    Bustle :=
  match o.progress with
  | .loaded found => b.proceed now i c ticket o.job found
  | progress =>
    let (progress, store) := progress.call now o.job.key.id b.world.agent.store
    { b.withStore store with openings := Function.update b.openings i (some { o with progress }) }

def step (now : Instant) (i : Nat) (b : Bustle) : Bustle :=
  match b.world.callers[i]? with
  | some c =>
    match c.opens? with
    | some (job, ticket) => b.advance now i c ticket ((b.openings i).getD { job })
    | none => { b with world := b.world.step now i }
  | none => b

def deed (now : Instant) (b : Bustle) : Deed → Bustle
  | .move (.step i) => b.step now i
  | .move m => { b with world := b.world.move now m }
  | .look key => { b with looks := b.looks ++ [{ key }] }
  | .call j =>
    match b.looks[j]? with
    | some l =>
      let (l, store) := l.call now b.world.agent.store
      { b.withStore store with looks := b.looks.set j l }
    | none => b

def after (run : List (Instant × Deed)) (b : Bustle) : Bustle :=
  run.foldl (fun b x => b.deed x.1 x.2) b

def start (agent : Agent Memory) (calls : List Call) : Bustle := { world := .start agent calls }

/-! ### Loads without a break -/

section Unbroken

variable (now : Instant) {i : Nat} {c : Caller} {job : Job} {ticket : Nat} {b : Bustle}

theorem step_opening (hc : b.world.callers[i]? = some c) (hopens : c.opens? = some (job, ticket)) :
    b.step now i = b.advance now i c ticket ((b.openings i).getD { job }) := by
  simp only [step, hc, hopens]

theorem step_other (hc : b.world.callers[i]? = some c) (hopens : c.opens? = none) :
    b.step now i = { b with world := b.world.step now i } := by
  simp only [step, hc, hopens]

theorem step_absent (hc : b.world.callers[i]? = none) : b.step now i = b := by
  simp only [step, hc]

theorem advance_call {progress : Progress job.key.kind.Of}
    (hcall : ∀ found, progress ≠ .loaded found) :
    b.advance now i c ticket ⟨job, progress⟩ =
      { b.withStore (progress.call now job.key.id b.world.agent.store).2 with
        openings := Function.update b.openings i
          (some ⟨job, (progress.call now job.key.id b.world.agent.store).1⟩) } := by
  cases progress with
  | loaded found => exact absurd rfl (hcall found)
  | _ => rfl

/-- The calls that are left of a load bring a caller to what it does with its record. -/
theorem steps_of_calls (hc : b.world.callers[i]? = some c)
    {first : Job} (hopens : c.opens? = some (first, ticket)) {progress : Progress job.key.kind.Of}
    (ho : (b.openings i).getD { job := first } = ⟨job, progress⟩) {n : Nat} {store : Store Memory}
    {found : Loaded job.key.kind.Of}
    (hcalls : Progress.calls now job.key.id n (progress, b.world.agent.store) =
      (.loaded found, store)) :
    ∃ m, (deed now · (.move (.step i)))^[m] b =
      (b.withStore store).proceed now i c ticket job found := by
  induction n generalizing b progress with
  | zero =>
    obtain ⟨rfl, rfl⟩ := Prod.mk.inj hcalls
    exact ⟨1, (step_opening now hc hopens).trans (by rw [ho]; rfl)⟩
  | succ n ih =>
    by_cases hloaded : ∃ found', progress = .loaded found'
    · obtain ⟨found', rfl⟩ := hloaded
      rw [Progress.calls_loaded] at hcalls
      obtain ⟨heq, rfl⟩ := Prod.mk.inj hcalls
      obtain rfl := Progress.loaded.inj heq
      exact ⟨1, (step_opening now hc hopens).trans (by rw [ho]; rfl)⟩
    · have hstep := step_opening now hc hopens
      rw [ho, advance_call now fun found' h => hloaded ⟨found', h⟩] at hstep
      generalize hnext : progress.call now job.key.id b.world.agent.store = next at hstep
      obtain ⟨progress', store'⟩ := next
      have hcalls' : Progress.calls now job.key.id n (progress', store') = (.loaded found, store) := by
        rw [← hnext]
        exact hcalls
      have ho' : ((b.step now i).openings i).getD { job := first } = ⟨job, progress'⟩ := by
        rw [hstep]
        simp
      obtain ⟨m, hm⟩ := ih (by rw [hstep]; exact hc) ho' (by rw [hstep]; exact hcalls')
      refine ⟨m + 1, hm.trans ?_⟩
      rw [hstep]
      simp [proceed, withStore]

end Unbroken

/-- The steps of a caller that loads its record without a break come to one step of a world. -/
theorem steps_eq (now : Instant) (i : Nat) (b : Bustle) (hidle : b.openings i = none) :
    ∃ n, (deed now · (.move (.step i)))^[n] b = { b with world := b.world.step now i } := by
  cases hc : b.world.callers[i]? with
  | none =>
    have hsame : b.world.step now i = b.world := by simp only [World.step, hc]
    exact ⟨0, by rw [hsame]; rfl⟩
  | some c =>
    cases hopens : c.opens? with
    | none => exact ⟨1, step_other now hc hopens⟩
    | some opening =>
      obtain ⟨job, ticket⟩ := opening
      have ho : (b.openings i).getD { job } = { job } := by rw [hidle]; rfl
      obtain ⟨n, hn⟩ := steps_of_calls now hc hopens ho
        (Progress.calls_eq_getOrCreate now job.key.id b.world.agent.store)
      refine ⟨n, hn.trans ?_⟩
      obtain ⟨⟨jobs, stage, outcome⟩, given⟩ := c
      cases jobs with
      | nil => cases hopens
      | cons first rest =>
        cases stage with
        | holding held =>
          obtain ⟨rfl, rfl⟩ := Prod.mk.inj (Option.some.inj hopens)
          have hopenings : Function.update b.openings i none = b.openings := by
            rw [← hidle, Function.update_eq_self]
          simp only [proceed, withStore, World.step, hc, Errand.step?, Errand.start_eq, hopenings]
          rfl
        | _ => cases hopens

/-- Some calls of a load without a lock, and nothing between them. -/
theorem calls_look (now : Instant) {j : Nat} {key : LockKey} {progress : Progress key.kind.Of}
    (b : Bustle) (hlook : b.looks[j]? = some ⟨key, progress⟩) (n : Nat) :
    (deed now · (.call j))^[n] b =
      { b.withStore (Progress.calls now key.id n (progress, b.world.agent.store)).2 with
        looks := b.looks.set j
          ⟨key, (Progress.calls now key.id n (progress, b.world.agent.store)).1⟩ } := by
  induction n generalizing b progress with
  | zero =>
    obtain ⟨hj, hget⟩ := List.getElem?_eq_some_iff.mp hlook
    simp only [Function.iterate_zero, id, Progress.calls, withStore, ← hget, List.set_getElem_self]
  | succ n ih =>
    have hstep : b.deed now (.call j) =
        { b.withStore (progress.call now key.id b.world.agent.store).2 with
          looks := b.looks.set j ⟨key, (progress.call now key.id b.world.agent.store).1⟩ } := by
      simp only [deed, hlook]
      rfl
    have hlook' : (b.deed now (.call j)).looks[j]? =
        some ⟨key, (progress.call now key.id b.world.agent.store).1⟩ := by
      rw [hstep]
      exact List.getElem?_set_self (List.getElem?_eq_some_iff.mp hlook).1
    rw [Function.iterate_succ_apply, ih _ hlook', hstep]
    simp only [withStore, List.set_set]
    rfl

/-- A load without a lock and without a break does what looking at a record does. -/
theorem look_eq (now : Instant) (key : LockKey) (b : Bustle) :
    (deed now · (.call b.looks.length))^[4] (b.deed now (.look key)) =
      { b with
        world := b.world.act now (.look key.kind key.id)
        looks := b.looks ++
          [⟨key, .loaded (b.world.agent.store.getOrCreate key.kind.Of now key.id).1⟩] } := by
  have hlook : (b.deed now (.look key)).looks[b.looks.length]? = some ⟨key, .fetching⟩ := by
    simp [deed]
  have hcalls := calls_look now _ hlook 4
  rw [Progress.calls_eq_getOrCreate] at hcalls
  refine hcalls.trans ?_
  obtain ⟨kind, id⟩ := key
  cases kind <;> simp [deed, withStore, World.act, Store.load]

end Bustle

/-! ### What is saved -/

def Unsaved.written (key : LockKey) : Unsaved → Option Octets
  | .nothing => none
  | .user record => if ⟨.user, Record.id record⟩ = key then some (Record.encode record) else none
  | .group record => if ⟨.group, Record.id record⟩ = key then some (Record.encode record) else none

/-- What is saved is a record. -/
theorem Unsaved.holds_written {key : LockKey} {unsaved : Unsaved} {data : Octets}
    (h : unsaved.written key = some data) : key.kind.Holds data := by
  cases unsaved with
  | nothing => cases h
  | user record =>
    obtain ⟨rfl, hdata⟩ := Option.ite_none_right_eq_some.mp h
    obtain rfl := Option.some.inj hdata
    exact Record.holds_encode record
  | group record =>
    obtain ⟨rfl, hdata⟩ := Option.ite_none_right_eq_some.mp h
    obtain rfl := Option.some.inj hdata
    exact Record.holds_encode record

theorem LockKey.update_slot (written : LockKey) (data : Octets) (before : SlotContents) :
    (∀ key : LockKey, Function.update before written.slot (some data) key.slot =
      (if written = key then some data else none).or (before key.slot)) ∧
    ∀ place : Address, place.IsBackup →
      Function.update before written.slot (some data) place = before place := by
  refine ⟨fun key => ?_, fun place hplace => ?_⟩
  · split
    · next heq => rw [heq, Function.update_self, Option.some_or]
    · next hne => rw [Function.update_of_ne fun h => hne (slot_injective h).symm, Option.none_or]
  · exact Function.update_of_ne (written.slot_ne_of_isBackup hplace) _ _

/-- Saving in memory writes one live slot, or none if there is nothing to be saved. -/
theorem Unsaved.content_save (unsaved : Unsaved) (a : Agent Memory) :
    (∀ key : LockKey, (Errand.save unsaved a).content key.slot =
      (unsaved.written key).or (a.content key.slot)) ∧
    ∀ place : Address, place.IsBackup → (Errand.save unsaved a).content place = a.content place := by
  cases unsaved with
  | nothing => exact ⟨fun _ => rfl, fun _ _ => rfl⟩
  | user record =>
    have hput : (Errand.save (.user record) a).content = _ :=
      Memory.content_insert a.store.slots (LockKey.slot ⟨.user, record.id⟩) (Record.encode record)
    rw [hput]
    exact LockKey.update_slot _ _ _
  | group record =>
    have hput : (Errand.save (.group record) a).content = _ :=
      Memory.content_insert a.store.slots (LockKey.slot ⟨.group, record.id⟩) (Record.encode record)
    rw [hput]
    exact LockKey.update_slot _ _ _

/-- A step of a caller that is not about to load saves what the caller leaves. -/
theorem World.save_step {w : World Memory} {now : Instant} {i : Nat} {c : Caller}
    (hc : w.callers[i]? = some c) (hopens : c.opens? = none) :
    (w.step now i).agent.store = (Errand.save (w.leaves i) w.agent).store := by
  obtain ⟨⟨jobs, stage, outcome⟩, given⟩ := c
  unfold leaves
  rw [hc]
  cases jobs with
  | nil => simp only [step, hc, Errand.step?]; rfl
  | cons job rest =>
    cases stage with
    | ready => simp only [step, hc, Errand.step?, turned]; rfl
    | waiting ticket =>
      simp only [step, hc, Errand.step?]
      split
      · next heq =>
        split at heq
        · obtain ⟨rfl, rfl⟩ := Prod.mk.inj (Option.some.inj heq)
          rfl
        · cases heq
      · rfl
    | holding ticket => cases hopens
    | asking ticket draft => simp only [step, hc, Errand.step?]; rfl
    | changed ticket unsaved => simp only [step, hc, Errand.step?, turned]; rfl
    | saved ticket => simp only [step, hc, Errand.step?, turned]; rfl

namespace Bustle

variable {now : Instant} {b : Bustle}

def content (b : Bustle) : SlotContents := b.world.agent.content

/-- A load is under way, or has loaded. -/
def Loading (l : Load) (b : Bustle) : Prop :=
  l ∈ b.looks ∨ ∃ i o, b.openings i = some o ∧ o.load = l

def written (key : LockKey) (b : Bustle) : Deed → Option Octets
  | .move (.step i) => (b.world.leaves i).written key
  | _ => none

/-- All that a deed can do to slots and loads: it saves something or nothing, and a load may begin, or it
makes the next call of a load. -/
inductive Does (now : Instant) (b : Bustle) (d : Deed) (b' : Bustle) : Prop
  | saves (hslots : ∀ key : LockKey, b'.content key.slot = (b.written key d).or (b.content key.slot))
      (hbackups : ∀ a : Address, a.IsBackup → b'.content a = b.content a)
      (hloads : ∀ l, b'.Loading l → b.Loading l ∨ l.progress = .fetching)
  | calls {key : LockKey} {progress progress' : Progress key.kind.Of}
      (hnothing : ∀ k, b.written k d = none)
      (hload : b.Loading ⟨key, progress⟩ ∨ progress = .fetching)
      (hcall : progress.Advances now key.id b.content progress' b'.content)
      (hloads : ∀ l, b'.Loading l → b.Loading l ∨ l = ⟨key, progress'⟩)

/-- A deed that saves nothing and makes no call of a load. -/
theorem Does.quiet {d : Deed} {b' : Bustle} (hnothing : ∀ key, b.written key d = none)
    (hcontent : b'.content = b.content)
    (hloads : ∀ l, b'.Loading l → b.Loading l ∨ l.progress = .fetching) : Does now b d b' := by
  refine .saves (fun key => ?_) (fun a _ => congrFun hcontent a) hloads
  rw [hnothing, hcontent, Option.none_or]

/-- Going on with a record that was loaded writes no slot. -/
theorem content_proceed (now : Instant) (ticket : Nat) (a : Agent Memory) (job : Job)
    (found : Loaded job.key.kind.Of) : (job.proceed now ticket a found).2.content = a.content := by
  cases job with
  | reply event => exact (Names.resolve_content _ _ _ a.store).1
  | _ => rfl

/-- A load is under way that was, or the one that a caller came to. -/
theorem loading_update {b' : Bustle} {i : Nat} {o? : Option Opening} {l : Load} (hl : b'.Loading l)
    (hlooks : b'.looks = b.looks) (hopenings : b'.openings = Function.update b.openings i o?) :
    b.Loading l ∨ ∃ o, o? = some o ∧ o.load = l := by
  rcases hl with hmem | ⟨j, o, ho, hload⟩
  · exact .inl (.inl (hlooks ▸ hmem))
  · rw [hopenings] at ho
    by_cases hji : j = i
    · subst hji
      rw [Function.update_self] at ho
      exact .inr ⟨o, ho, hload⟩
    · rw [Function.update_of_ne hji] at ho
      exact .inl (.inr ⟨j, o, ho, hload⟩)

theorem advance_does {i ticket : Nat} {c : Caller} {job : Job}
    (hc : b.world.callers[i]? = some c) (hopens : c.opens? = some (job, ticket)) :
    Does now b (.move (.step i)) (b.advance now i c ticket ((b.openings i).getD { job })) := by
  have hnothing : ∀ key, b.written key (.move (.step i)) = none := by
    obtain ⟨⟨jobs, stage, outcome⟩, given⟩ := c
    have hleaves : b.world.leaves i = .nothing := by
      rw [World.leaves, hc, Option.elim_some]
      cases jobs with
      | nil => rfl
      | cons job' rest =>
        cases stage with
        | changed ticket' unsaved => cases hopens
        | _ => rfl
    intro key
    rw [written, hleaves, Unsaved.written]
  generalize ho : (b.openings i).getD { job } = o
  obtain ⟨job', progress⟩ := o
  by_cases hloaded : ∃ found, progress = .loaded found
  · obtain ⟨found, rfl⟩ := hloaded
    refine .quiet hnothing (content_proceed now ticket b.world.agent job' found) fun l hl => .inl ?_
    rcases loading_update (b := b) hl rfl rfl with hold | ⟨_, hnone, _⟩
    · exact hold
    · cases hnone
  · rw [advance_call now fun found h => hloaded ⟨found, h⟩]
    refine .calls hnothing ?_ (Progress.call_advances now job'.key.id b.world.agent.store progress) ?_
    · cases hi : b.openings i with
      | none =>
        rw [hi] at ho
        cases ho
        exact .inr rfl
      | some o =>
        rw [hi] at ho
        obtain rfl : o = ⟨job', progress⟩ := ho
        exact .inl (.inr ⟨i, _, hi, rfl⟩)
    · intro l hl
      refine (loading_update (b := b) hl rfl rfl).imp id fun ⟨o, ho', hload⟩ => ?_
      rw [← hload, ← Option.some.inj ho']
      rfl

/-- Every deed saves or makes a call of a load, and never both. -/
theorem deed_does (now : Instant) (b : Bustle) (d : Deed) : Does now b d (b.deed now d) := by
  cases d with
  | move m =>
    cases m with
    | step i =>
      show Does now b _ (b.step now i)
      cases hc : b.world.callers[i]? with
      | none =>
        rw [step_absent now hc]
        refine .quiet (fun key => ?_) rfl fun l hl => .inl hl
        simp only [written, World.leaves, hc, Option.elim_none, Unsaved.written]
      | some c =>
        cases hopens : c.opens? with
        | some opening => exact step_opening now hc hopens ▸ advance_does hc hopens
        | none =>
          rw [step_other now hc hopens]
          obtain ⟨hslots, hbackups⟩ := (b.world.leaves i).content_save b.world.agent
          have hcontent : (b.world.step now i).agent.content =
              (Errand.save (b.world.leaves i) b.world.agent).content :=
            congrArg Store.content (World.save_step hc hopens)
          exact .saves (fun key => (congrFun hcontent _).trans (hslots key))
            (fun a ha => (congrFun hcontent a).trans (hbackups a ha)) fun l hl => .inl hl
    | answer i generated =>
      exact .quiet (fun _ => rfl) (World.quiet_answer now i generated b.world).content
        fun l hl => .inl hl
    | pass time => exact .quiet (fun _ => rfl) rfl fun l hl => .inl hl
  | look key =>
    refine .quiet (fun _ => rfl) rfl fun l hl => ?_
    rcases hl with hmem | hopening
    · rcases List.mem_append.mp hmem with hold | hnew
      · exact .inl (.inl hold)
      · exact .inr (List.mem_singleton.mp hnew ▸ rfl)
    · exact .inl (.inr hopening)
  | call j =>
    cases hlook : b.looks[j]? with
    | none =>
      have hsame : b.deed now (.call j) = b := by simp only [deed, hlook]
      rw [hsame]
      exact .quiet (fun _ => rfl) rfl fun l hl => .inl hl
    | some l =>
      obtain ⟨key, progress⟩ := l
      have hstep : b.deed now (.call j) = _ := calls_look now b hlook 1
      rw [hstep]
      refine .calls (fun _ => rfl) (.inl (.inl (List.mem_of_getElem? hlook)))
        (Progress.call_advances now key.id b.world.agent.store progress) fun l hl => ?_
      rcases hl with hmem | hopening
      · rcases List.mem_or_eq_of_mem_set hmem with hold | hnew
        · exact .inl (.inl hold)
        · exact .inr hnew
      · exact .inl (.inr hopening)

end Bustle

end Companion
