import Companion.Turn.Reply

/-!
Errands: what is done for an event or a call, as a machine that many can run side by side. An errand
does its jobs one after the other, and each job holds the lock of one record from loading it to
saving it. A step is one thing that happens to an errand; between the steps of one errand those of
others may happen.
-/

namespace Companion

open Number Time

inductive Job
  | editUser (id : Int64) (change : Instant → UserRecord → UserRecord)
  | editGroup (id : Int64) (change : Instant → GroupRecord → GroupRecord)
  | syncName (event : Event)
  | reply (event : Event)

def Job.key : Job → LockKey
  | .editUser id _ => ⟨.user, id⟩
  | .editGroup id _ => ⟨.group, id⟩
  | .syncName event => ⟨.user, event.sender⟩
  | .reply event => ⟨.user, event.sender⟩

inductive Unsaved
  | nothing
  | user (record : UserRecord)
  | group (record : GroupRecord)

def Unsaved.ofUser (loaded : Loaded UserRecord) : Unsaved :=
  if loaded.state.canSave then .user loaded.record else .nothing

def Unsaved.ofGroup (loaded : Loaded GroupRecord) : Unsaved :=
  if loaded.state.canSave then .group loaded.record else .nothing

inductive Stage
  | ready
  | waiting (ticket : Nat)
  | holding (ticket : Nat)
  | asking (ticket : Nat) (draft : Draft)
  | changed (ticket : Nat) (unsaved : Unsaved)
  | saved (ticket : Nat)

/-- The jobs that are left, how far the first has come, and the outcome so far. -/
structure Errand where
  jobs : List Job
  stage : Stage := .ready
  outcome : Outcome := {}

namespace Errand

/-- The errand for an event. A group message goes into the record of the group and tells the name of
its sender; a message to be answered is answered. -/
def ofEvent (now : Instant) (settings : RecordSettings) (event : Event) : Errand where
  jobs :=
    (if event.kind = .group then
      .editGroup event.chat (fun _ group =>
        group.pushMessage settings.groupMessageCapacity ⟨event.label, event.text, now⟩) ::
      (if event.displayName?.isSome then [.syncName event] else [])
    else []) ++ if event.wantsReply then [.reply event] else []

def ofAdded (chat : Int64) (title : String) : Errand where
  jobs := [.editGroup chat (Agent.retitled title)]

def question? (t : Errand) : Option Draft :=
  match t.stage with
  | .asking _ draft => some draft
  | _ => none

def isGranted (locks : LockTable) (t : Errand) : Bool :=
  match t.stage with
  | .waiting ticket => locks.isGranted ticket
  | _ => false

variable {σ : Type} [Backend σ]

/-- The name that an event tells, on the record of its sender: to be saved if it is new, or if the
record is. -/
def nameSender (now : Instant) (event : Event) (a : Agent σ) : Unsaved × Agent σ :=
  let (loaded, store) := a.store.getOrCreate UserRecord now event.sender
  let (record, changed) := loaded.record.syncUsername event.displayName?
  (if changed || loaded.state.isCreated then .ofUser ⟨record, loaded.state⟩ else .nothing,
    { a with store })

/-- A job that holds its lock, carried out up to where it saves or asks. -/
def start (now : Instant) (ticket : Nat) (job : Job) (a : Agent σ) : Stage × Agent σ :=
  match job with
  | .editUser id change =>
    let (loaded, store) := a.store.getOrCreate UserRecord now id
    (.changed ticket (.ofUser ⟨change now loaded.record, loaded.state⟩), { a with store })
  | .editGroup id change =>
    let (loaded, store) := a.store.getOrCreate GroupRecord now id
    (.changed ticket (.ofGroup ⟨change now loaded.record, loaded.state⟩), { a with store })
  | .syncName event =>
    let (unsaved, a) := nameSender now event a
    (.changed ticket unsaved, a)
  | .reply event =>
    let (draft, a) := a.beginReply now event
    (.asking ticket draft, a)

def save (unsaved : Unsaved) (a : Agent σ) : Agent σ :=
  match unsaved with
  | .nothing => a
  | .user record => { a with store := a.store.save record }
  | .group record => { a with store := a.store.save record }

def answered (now : Instant) (generated : Except TurnError String) (t : Errand) (a : Agent σ) :
    Errand × Agent σ :=
  match t.stage with
  | .asking ticket draft =>
    let ((loaded, outcome), a) := a.finishReply now draft generated
    ({ t with stage := .changed ticket (.ofUser loaded), outcome }, a)
  | _ => (t, a)

/-- The next step of an errand, where it need not wait: for its lock, for an answer, or for ever
because it is done. -/
def step? (now : Instant) (t : Errand) (a : Agent σ) : Option (Errand × Agent σ) :=
  match t.jobs with
  | [] => none
  | job :: rest =>
    match t.stage with
    | .ready =>
      let (ticket, locks) := a.locks.request job.key
      some ({ t with stage := .waiting ticket }, { a with locks := locks.poll ticket })
    | .waiting ticket =>
      let locks := a.locks.poll ticket
      if locks.isHeld ticket then some ({ t with stage := .holding ticket }, { a with locks })
      else none
    | .holding ticket =>
      let (stage, a) := start now ticket job a
      some ({ t with stage }, a)
    | .asking _ _ => none
    | .changed ticket unsaved => some ({ t with stage := .saved ticket }, save unsaved a)
    | .saved ticket =>
      some ({ t with jobs := rest, stage := .ready }, { a with locks := a.locks.unlock ticket })

end Errand

end Companion
