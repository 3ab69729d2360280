import Companion.Proofs.LoadLocks

/-!
Loads among saves. A load that finds octets in a slot which hold no record moves aside what it finds
there when it looks again, and that may be a record that was saved in the meantime. So a saved record
stays in its slot until the next save, except where a load is under way that found the slot in disorder
before.
-/

namespace Companion

open Number Text Time Json

/-! ### Single calls -/

namespace Progress.Advances

variable {now : Instant} {key : LockKey} {before after : SlotContents}
  {progress progress' : Progress key.kind.Of}

/-- A call of a load leaves live slots alone, except that it may remove its own. -/
theorem slot_cases (h : progress.Advances now key.id before progress' after) (k : LockKey) :
    after k.slot = before k.slot ∨ (k = key ∧ progress = .removing ∧ after k.slot = none) := by
  cases h with
  | copies data =>
    refine .inl (Function.update_of_ne (fun heq => ?_) _ _)
    rw [RecordKind.kind_of] at heq
    exact space_ne_backupSpace _ _ (congrArg Address.space heq)
  | removes found =>
    rw [LockKey.address_of]
    by_cases hkey : k = key
    · subst hkey
      exact .inr ⟨rfl, rfl, Function.update_self ..⟩
    · exact .inl (Function.update_of_ne (fun heq => hkey (LockKey.slot_injective heq)) _ _)
  | _ => exact .inl rfl

/-- A call of a load leaves backups alone, except that it may put there what it read. -/
theorem backup_cases (h : progress.Advances now key.id before progress' after) {place : Address}
    (hplace : place.IsBackup) : after place = before place ∨
      ∃ data, progress = .copying data ∧ place = key.backup now ∧ after place = some data := by
  cases h with
  | copies data =>
    rw [RecordKind.kind_of]
    by_cases hhere : place = key.backup now
    · subst hhere
      exact .inr ⟨data, rfl, rfl, Function.update_self ..⟩
    · exact .inl (Function.update_of_ne hhere _ _)
  | removes found =>
    rw [LockKey.address_of]
    exact .inl (Function.update_of_ne (key.slot_ne_of_isBackup hplace) _ _)
  | _ => exact .inl rfl

/-- A load that is about to move a slot aside was so before, or has just found no record in it. -/
theorem late (h : progress.Advances now key.id before progress' after)
    (hlate : progress'.isLate = true) :
    progress.isLate = true ∨ ¬ key.kind.Clear (before key.slot) := by
  cases h with
  | balks hslot =>
    rw [LockKey.address_of, RecordKind.kind_of] at hslot
    exact .inr hslot
  | finds hslot => exact .inl rfl
  | copies data => exact .inl rfl
  | _ => cases hlate

/-- What a load copies lies in the slot when it looks again. -/
theorem copying (h : progress.Advances now key.id before progress' after) {data : Octets}
    (hcopying : progress' = .copying data) : before key.slot = some data := by
  subst hcopying
  cases h with
  | finds hslot =>
    rw [LockKey.address_of] at hslot
    exact hslot

end Progress.Advances

namespace Bustle

variable {now : Instant} {b : Bustle} {key : LockKey}

/-- A deed leaves a live slot as it is, except for what it saves, and for a load that removes it. -/
theorem slot_deed (now : Instant) (b : Bustle) (d : Deed) (key : LockKey) :
    (b.deed now d).content key.slot = (b.written key d).or (b.content key.slot) ∨
      b.Loading ⟨key, .removing⟩ ∧ (b.deed now d).content key.slot = none := by
  cases deed_does now b d with
  | saves hslots hbackups hloads => exact .inl (hslots key)
  | @calls k progress progress' hnothing hload hcall hloads =>
    rw [hnothing, Option.none_or]
    refine (hcall.slot_cases key).imp id fun ⟨hkey, hremoving, hnone⟩ => ⟨?_, hnone⟩
    subst hkey hremoving
    exact hload.resolve_right nofun

/-! ### Slots in order -/

/-- The slot of a record is empty or holds a record, and no load of it is about to move it aside. -/
structure Undisturbed (key : LockKey) (b : Bustle) : Prop where
  clear : key.kind.Clear (b.content key.slot)
  calm : ∀ progress, b.Loading ⟨key, progress⟩ → progress.isLate = false

theorem clear_written (hclear : key.kind.Clear (b.content key.slot)) (d : Deed) :
    key.kind.Clear ((b.written key d).or (b.content key.slot)) := by
  cases hwritten : b.written key d with
  | none => rwa [Option.none_or]
  | some data =>
    rw [Option.some_or]
    rintro _ ⟨⟩
    cases d with
    | move m =>
      cases m with
      | step i => exact Unsaved.holds_written hwritten
      | _ => cases hwritten
    | _ => cases hwritten

namespace Undisturbed

/-- Only saving changes a slot in order, and it stays in order. -/
theorem deed (h : b.Undisturbed key) (now : Instant) (d : Deed) : (b.deed now d).Undisturbed key ∧
    (b.deed now d).content key.slot = (b.written key d).or (b.content key.slot) := by
  have hslot := (slot_deed now b d key).resolve_right fun hremoved =>
    absurd (h.calm _ hremoved.1) nofun
  refine ⟨⟨hslot ▸ clear_written h.clear d, fun progress hl => ?_⟩, hslot⟩
  cases deed_does now b d with
  | saves hslots hbackups hloads =>
    rcases hloads _ hl with hold | hfetching
    · exact h.calm progress hold
    · obtain rfl : progress = .fetching := hfetching
      rfl
  | @calls k before after hnothing hload hcall hloads =>
    rcases hloads _ hl with hold | hnew
    · exact h.calm progress hold
    · obtain ⟨rfl, hprogress⟩ := Load.mk.inj hnew
      obtain rfl := eq_of_heq hprogress
      -- A load that is late now was late before, or found the slot in disorder just now.
      by_contra hlate
      rcases hcall.late (Bool.not_eq_false _ ▸ hlate) with hbefore | hunclear
      · rcases hload with hload | rfl
        · exact absurd (h.calm _ hload) (by simp [hbefore])
        · cases hbefore
      · exact hunclear h.clear

end Undisturbed

/-- A caller is about to save octets in the record whose lock it holds. -/
def Saves (i : Nat) (key : LockKey) (data : Octets) (b : Bustle) : Prop :=
  ∃ (c : Caller) (job : Job) (rest : List Job) (ticket : Nat) (unsaved : Unsaved),
    b.world.callers[i]? = some c ∧ c.errand.jobs = job :: rest ∧ job.key = key ∧
      c.errand.stage = .changed ticket unsaved ∧ unsaved.written key = some data

/-- A record that is saved under its lock lies in its slot, and the slot is in order if all loads that
found it otherwise without a lock are done. -/
theorem Guarded.saved {settings : RecordSettings} (h : b.Guarded settings) (now : Instant) {i : Nat}
    {data : Octets} (hsaves : b.Saves i key data)
    (hlooks : ∀ progress, ⟨key, progress⟩ ∈ b.looks → progress.isLate = false) :
    (b.deed now (.move (.step i))).Undisturbed key ∧
      (b.deed now (.move (.step i))).content key.slot = some data := by
  obtain ⟨c, job, rest, ticket, unsaved, hc, hjobs, rfl, hstage, hdata⟩ := hsaves
  -- Loads of the record under its lock are out of the question, since the caller holds the lock.
  have hcalm : ∀ progress, b.Loading ⟨job.key, progress⟩ → progress.isLate = false := by
    rintro progress (hmem | ⟨j, o, ho, hload⟩)
    · exact hlooks progress hmem
    · exact absurd (congrArg Load.key hload) (h.not_opening hc hjobs hstage ho)
  have hwritten : b.written job.key (.move (.step i)) = some data := by
    rw [← hdata, written, World.leaves, hc, Option.elim_some, Caller.leaves, hjobs, hstage]
  have hslot := (slot_deed now b (.move (.step i)) job.key).resolve_right fun hremoved =>
    Bool.false_ne_true (hcalm _ hremoved.1).symm
  rw [hwritten, Option.some_or] at hslot
  have hopens : c.opens? = none := by
    rw [Caller.opens?, hjobs, hstage]
  refine ⟨⟨fun data' hdata' => ?_, fun progress hl => hcalm progress ?_⟩, hslot⟩
  · obtain rfl := Option.some.inj (hslot.symm.trans hdata')
    exact Unsaved.holds_written hdata
  · change (b.step now i).Loading ⟨job.key, progress⟩ at hl
    rwa [step_other now hc hopens] at hl

def lastWritten (key : LockKey) : List (Instant × Deed) → Bustle → Option Octets
  | [], _ => none
  | (now, d) :: rest, b => (lastWritten key rest (b.deed now d)).or (b.written key d)

/-- From a slot in order on, what was saved last is what lies there. -/
theorem Undisturbed.after (h : b.Undisturbed key) (run : List (Instant × Deed)) :
    (b.after run).Undisturbed key ∧
      (b.after run).content key.slot = (b.lastWritten key run).or (b.content key.slot) := by
  induction run generalizing b with
  | nil => exact ⟨h, Option.none_or.symm⟩
  | cons x rest ih =>
    obtain ⟨now, d⟩ := x
    obtain ⟨hnext, hslot⟩ := h.deed now d
    obtain ⟨hlast, hcontent⟩ := ih hnext
    refine ⟨hlast, hcontent.trans ?_⟩
    rw [hslot, lastWritten, Option.or_assoc]

/-! ### Runs -/

section Runs

variable (agent : Agent Memory) (calls : List Call)

theorem not_loading_start (l : Load) : ¬ (start agent calls).Loading l := by
  rintro (hmem | ⟨i, o, ho, _⟩)
  · cases hmem
  · cases ho

variable {agent calls}

theorem undisturbed_start (hclear : key.kind.Clear (agent.content key.slot)) :
    (start agent calls).Undisturbed key :=
  ⟨hclear, fun _ hl => absurd hl (not_loading_start agent calls _)⟩

variable {run : List (Instant × Deed)}

/-- A load that is about to move a slot aside found there what lay there at first. -/
theorem not_clear_of_late {progress : Progress key.kind.Of}
    (hl : ((start agent calls).after run).Loading ⟨key, progress⟩) (hlate : progress.isLate = true) :
    ¬ key.kind.Clear (agent.content key.slot) := by
  intro hclear
  have hstart : (start agent calls).Undisturbed key := undisturbed_start hclear
  have hcalm := (hstart.after run).1.calm progress hl
  rw [hlate] at hcalm
  cases hcalm

/-- What a load copies lay in the slot at an earlier point of the run. -/
theorem copying_earlier {data : Octets}
    (hl : ((start agent calls).after run).Loading ⟨key, .copying data⟩) :
    ∃ earlier, earlier <+: run ∧ ((start agent calls).after earlier).content key.slot = some data := by
  -- The run is taken apart at its end: only the deed by which the load read the slot again makes it copy.
  induction run using List.reverseRecOn with
  | nil => exact absurd hl (not_loading_start agent calls _)
  | append_singleton run x ih =>
    obtain ⟨now, d⟩ := x
    have hold : ((start agent calls).after run).Loading ⟨key, .copying data⟩ →
        ∃ earlier, earlier <+: run ++ [(now, d)] ∧
          ((start agent calls).after earlier).content key.slot = some data := fun h =>
      let ⟨earlier, hbefore, hslot⟩ := ih h
      ⟨earlier, hbefore.trans (List.prefix_append _ _), hslot⟩
    have hafter : (start agent calls).after (run ++ [(now, d)]) =
        ((start agent calls).after run).deed now d := List.foldl_append
    rw [hafter] at hl
    cases deed_does now ((start agent calls).after run) d with
    | saves hslots hbackups hloads => exact hold ((hloads _ hl).resolve_right nofun)
    | @calls k before after hnothing hload hcall hloads =>
      rcases hloads _ hl with hkept | hnew
      · exact hold hkept
      · obtain ⟨rfl, hprogress⟩ := Load.mk.inj hnew
        exact ⟨run, List.prefix_append _ _, hcall.copying (eq_of_heq hprogress).symm⟩

end Runs

/-- In memory, with loads that take no lock among the calls of callers, call by call in any order:
a slot that is empty or holds a record at first is always in order. After a caller has saved a record
whose lock it holds, the record lies in its slot, and the slot is in order if no load without a lock is
about to move it aside. From a slot in order on, the record that was saved last is what lies there.
Only a load that found there what lay there at first, which was no record, can remove a slot, and only
such a load puts octets among the backups: those that lay in the slot at an earlier point. -/
theorem saves_survive (agent : Agent Memory) (calls : List Call) (hlocks : agent.locks = {})
    (run : List (Instant × Deed)) :
    let b := (start agent calls).after run
    (∀ key : LockKey, key.kind.Clear (agent.content key.slot) → b.Undisturbed key) ∧
    (∀ (key : LockKey) now i data, b.Saves i key data →
      (∀ progress, ⟨key, progress⟩ ∈ b.looks → progress.isLate = false) →
      (b.deed now (.move (.step i))).Undisturbed key ∧
        (b.deed now (.move (.step i))).content key.slot = some data) ∧
    (∀ key : LockKey, b.Undisturbed key → ∀ later, (b.after later).Undisturbed key ∧
      (b.after later).content key.slot = (b.lastWritten key later).or (b.content key.slot)) ∧
    ∀ now d,
      (∀ key : LockKey,
        (b.deed now d).content key.slot = (b.written key d).or (b.content key.slot) ∨
        (b.deed now d).content key.slot = none ∧ b.Loading ⟨key, .removing⟩ ∧
          ¬ key.kind.Clear (agent.content key.slot)) ∧
      ∀ place : Address, place.IsBackup → (b.deed now d).content place = b.content place ∨
        ∃ (key : LockKey) (data : Octets), place = key.backup now ∧
          (b.deed now d).content place = some data ∧ ¬ key.kind.Clear (agent.content key.slot) ∧
          ∃ earlier, earlier <+: run ∧
            ((start agent calls).after earlier).content key.slot = some data := by
  intro b
  have hguarded : b.Guarded agent.store.settings := (guarded_start agent calls hlocks).after run
  refine ⟨fun key hclear => ((undisturbed_start hclear).after run).1,
    fun key now i data hsaves hlooks => hguarded.saved now hsaves hlooks,
    fun key h later => h.after later, fun now d => ⟨fun key => ?_, fun place hplace => ?_⟩⟩
  · exact (slot_deed now b d key).imp id fun ⟨hl, hnone⟩ => ⟨hnone, hl, not_clear_of_late hl rfl⟩
  · cases deed_does now b d with
    | saves hslots hbackups hloads => exact .inl (hbackups place hplace)
    | @calls key before after hnothing hload hcall hloads =>
      refine (hcall.backup_cases hplace).imp id fun ⟨data, hcopying, hhere, hput⟩ => ?_
      subst hcopying
      have hl := hload.resolve_right nofun
      exact ⟨key, data, hhere, hput, not_clear_of_late hl rfl, copying_earlier hl⟩

/-- An agent with octets in the slot of a user that hold no record. -/
def disorderedAgent : Agent Memory where
  store := { slots := Table.empty.insert (LockKey.slot ⟨.user, 7⟩) [120] }

/-- A change of the record of the user that leaves it as it is. -/
def touchUser : Call := .updateUser 7 ⟨fun _ r => r, fun _ _ => rfl⟩

def outset : Instant := ⟨epoch, 0, 0, isMoment_zero⟩

def doing (deeds : List Deed) : List (Instant × Deed) := deeds.map fun d => (outset, d)

/-- Once a load has moved the octets aside, a record that is saved stays, though another load looks at
the slot before it is saved and after. -/
theorem saves_survive_cleared :
    (((start disorderedAgent [touchUser]).after
        (doing (.look ⟨.user, 7⟩ :: .replicate 4 (.call 0)))).after
      (doing (.replicate 4 (.move (.step 0)) ++
        [.look ⟨.user, 7⟩, .move (.step 0), .call 1, .call 1]))).content (LockKey.slot ⟨.user, 7⟩) =
      some (Record.encode (UserRecord.blank {} 7 outset)) := by
  have hcleared : ((start disorderedAgent [touchUser]).after
      (doing (.look ⟨.user, 7⟩ :: .replicate 4 (.call 0)))).Undisturbed ⟨.user, 7⟩ := by
    have hnone : ((start disorderedAgent [touchUser]).after
        (doing (.look ⟨.user, 7⟩ :: .replicate 4 (.call 0)))).content (LockKey.slot ⟨.user, 7⟩) =
        none := by decide +kernel
    have hlooks : ((start disorderedAgent [touchUser]).after
        (doing (.look ⟨.user, 7⟩ :: .replicate 4 (.call 0)))).looks.all (!·.progress.isLate) = true := by
      decide +kernel
    refine ⟨fun data hdata => (nomatch hnone.symm.trans hdata), fun progress hl => ?_⟩
    rcases hl with hmem | ⟨i, o, ho, -⟩
    · simpa using List.all_eq_true.mp hlooks _ hmem
    · cases ho
  obtain ⟨-, -, hstays, -⟩ := saves_survive disorderedAgent [touchUser] rfl
    (doing (.look ⟨.user, 7⟩ :: .replicate 4 (.call 0)))
  refine (hstays ⟨.user, 7⟩ hcleared _).2.trans ?_
  decide +kernel

/-- A load finds that the slot holds no record, then somebody else moves the octets aside and saves a
record under its lock, and then the load moves that record aside. -/
theorem load_removes_saved : ¬ ∀ (agent : Agent Memory) (calls : List Call)
    (run : List (Instant × Deed)) (key : LockKey) (data : Octets), agent.locks = {} →
    (start agent calls).lastWritten key run = some data →
      ((start agent calls).after run).content key.slot = some data := by
  intro hstays
  have hsaved := hstays disorderedAgent [touchUser]
    (doing ([.look ⟨.user, 7⟩, .call 0] ++ .replicate 8 (.move (.step 0)) ++ .replicate 3 (.call 0)))
    ⟨.user, 7⟩ (Record.encode (UserRecord.blank {} 7 outset)) rfl (by decide +kernel)
  have hlost : ((start disorderedAgent [touchUser]).after
      (doing ([.look ⟨.user, 7⟩, .call 0] ++ .replicate 8 (.move (.step 0)) ++
        .replicate 3 (.call 0)))).content (LockKey.slot ⟨.user, 7⟩) = none := by
    decide +kernel
  exact nomatch hlost.symm.trans hsaved

end Bustle

end Companion
