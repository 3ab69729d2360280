import Companion.Proofs.Locks

/-!
The lock table under any actions. Tasks ask for records, go on, give up and give back in whatever
order they like, and between giving a mutex back and looking whether its entry can go anything may
happen. All the same every claim that is made, waits or holds refers to the mutex that the table has
for its record at that time, so a record is never in two hands.
-/

namespace Companion.LockTable

variable {t : LockTable}

inductive Action
  | request (key : LockKey)
  | poll (ticket : Nat)
  | cancel (ticket : Nat)
  | release (ticket : Nat)
  | tidy (ticket : Nat)
  deriving DecidableEq, Repr

def Action.ticket? : Action → Option Nat
  | .request _ => none
  | .poll ticket => some ticket
  | .cancel ticket => some ticket
  | .release ticket => some ticket
  | .tidy ticket => some ticket

def act (t : LockTable) : Action → LockTable
  | .request key => (t.request key).2
  | .poll ticket => t.poll ticket
  | .cancel ticket => t.cancel ticket
  | .release ticket => t.release ticket
  | .tidy ticket => t.tidy ticket

def run (t : LockTable) (actions : List Action) : LockTable := actions.foldl act t

/-! ### Giving up -/

/-- Without the claim that has a mutex, nobody has it. -/
theorem Sound.isTaken_without (h : Sound t) {c : Claim} (hc : c ∈ t.claims)
    (hhas : c.stage.hasMutex = true) : (t.without c.ticket).isTaken c.mutex = false := by
  refine List.any_eq_false.mpr fun d hd hboth => ?_
  obtain ⟨hd, hne⟩ := mem_without.mp hd
  obtain ⟨hmutex, hdm⟩ : d.mutex = c.mutex ∧ d.stage.hasMutex = true := by simpa using hboth
  exact hne (congrArg Claim.ticket (h.alone d hd c hc hmutex hdm hhas))

/-- A claim that is given up leaves the table, and a mutex that was handed to it goes on. -/
theorem cancel_cases (t : LockTable) (ticket : Nat) : t.cancel ticket = t ∨
    t.cancel ticket = t.without ticket ∨
      ∃ mutex, t.cancel ticket = (t.without ticket).handOver mutex := by
  unfold cancel
  split
  · split
    · exact .inr (.inl rfl)
    · exact .inr (.inl rfl)
    · exact .inr (.inr ⟨_, rfl⟩)
    · exact .inl rfl
  · exact .inl rfl

/-- A claim may be given up at any time, also when the mutex was handed to it unnoticed. -/
theorem Sound.cancel (h : Sound t) (ticket : Nat) : Sound (t.cancel ticket) := by
  unfold LockTable.cancel
  cases hfound : t.claim? ticket with
  | none => exact h
  | some c =>
    obtain ⟨hc, rfl⟩ := claim?_mem hfound
    obtain ⟨ticket, key, mutex, stage⟩ := c
    cases stage with
    | requested => exact h.without ticket
    | waiting => exact h.without ticket
    | granted => exact (h.without ticket).handOver (h.isTaken_without hc rfl)
    | holding => exact h
    | released => exact h

/-! ### Runs -/

/-- Every action keeps the table sound. -/
theorem Sound.act (h : Sound t) (a : Action) : Sound (t.act a) := by
  cases a with
  | request key => exact h.request key
  | poll ticket => exact h.poll ticket
  | cancel ticket => exact h.cancel ticket
  | release ticket => exact h.release ticket
  | tidy ticket => exact h.tidy ticket

/-- Every run of actions keeps the table sound. -/
theorem Sound.run (h : Sound t) (actions : List Action) : Sound (t.run actions) := by
  induction actions generalizing t with
  | nil => exact h
  | cons a actions ih => exact ih (h.act a)

theorem Sound.stays_handOver (h : Sound t) {c : Claim} (hc : c ∈ t.claims) (mutex : Nat) :
    c ∈ (t.handOver mutex).claims ∨
      c.stage = .waiting ∧ { c with stage := .granted } ∈ (t.handOver mutex).claims := by
  obtain ⟨handed, hhanded, hmem⟩ := h.mem_handOver mutex
  have hafter := (hmem _).mpr ⟨c, hc, rfl⟩
  by_cases hself : handed = some c.ticket
  · rw [if_pos hself] at hafter
    exact .inr ⟨(hhanded c hc hself).1, hafter⟩
  · rw [if_neg hself] at hafter
    exact .inl hafter

/-- Nobody but its own task moves a claim on, unless the mutex that it waits for is handed to it. -/
theorem Sound.stays (h : Sound t) {c : Claim} (hc : c ∈ t.claims) {a : Action}
    (hother : a.ticket? ≠ some c.ticket) : c ∈ (t.act a).claims ∨
      c.stage = .waiting ∧ { c with stage := .granted } ∈ (t.act a).claims := by
  have hne : ∀ {ticket}, a.ticket? = some ticket → c.ticket ≠ ticket :=
    fun ha heq => hother (ha.trans (congrArg some heq.symm))
  cases a with
  | request key =>
    left
    rw [LockTable.act, request_eq]
    exact List.mem_append_left _ hc
  | poll ticket =>
    left
    cases hfound : t.claim? ticket with
    | none => simpa only [LockTable.act, LockTable.poll, hfound] using hc
    | some e =>
      obtain ⟨he, rfl⟩ := claim?_mem hfound
      exact (h.mem_poll he).mpr (.inr ⟨hc, hne rfl⟩)
  | cancel ticket =>
    have hkept : c ∈ (t.without ticket).claims := mem_without.mpr ⟨hc, hne rfl⟩
    change c ∈ (t.cancel ticket).claims ∨ c.stage = .waiting ∧ _ ∈ (t.cancel ticket).claims
    rcases cancel_cases t ticket with heq | heq | ⟨mutex, heq⟩
    · rw [heq]
      exact .inl hc
    · rw [heq]
      exact .inl hkept
    · rw [heq]
      exact (h.without ticket).stays_handOver hkept mutex
  | release ticket =>
    have hkept : c ∈ (t.moved ticket .released).claims :=
      LockTable.mem_moved.mpr ⟨c, hc, by rw [if_neg (hne rfl)]⟩
    change c ∈ (t.release ticket).claims ∨ c.stage = .waiting ∧ _ ∈ (t.release ticket).claims
    unfold LockTable.release
    split
    · split
      · exact (h.released ticket).stays_handOver hkept _
      · exact .inl hc
    · exact .inl hc
  | tidy ticket =>
    left
    change c ∈ (t.tidy ticket).claims
    unfold LockTable.tidy
    split
    · split
      · rw [swept_claims]
        exact mem_without.mpr ⟨hc, hne rfl⟩
      · exact hc
    · exact hc

/-- After every run of actions, two claims of one record that are made, wait or hold refer to the
mutex that the table has for the record, and one of them at most has it. -/
theorem one_mutex (actions : List Action) {c d : Claim} (hc : c ∈ (run {} actions).claims)
    (hd : d ∈ (run {} actions).claims) (hkey : c.key = d.key) (hclive : c.stage.isLive = true)
    (hdlive : d.stage.isLive = true) :
    (run {} actions).mutexOf? c.key = some c.mutex ∧
      (run {} actions).mutexOf? c.key = some d.mutex ∧
      (c.stage.hasMutex = true → d.stage.hasMutex = true → c = d) := by
  have hsound := sound_empty.run actions
  refine ⟨hsound.mapped c hc hclive, ?_, fun hcm hdm => ?_⟩
  · rw [hkey]
    exact hsound.mapped d hd hdlive
  · exact hsound.exclusive hc hd hkey hcm hdm

/-- The first holder gives its mutex back, the second is handed it and gives up unnoticed, and a third
asks before the first has looked whether the entry can go. -/
def contended (key : LockKey) : List Action :=
  [.request key, .poll 0, .request key, .poll 1, .request key, .poll 2, .release 0, .cancel 1,
    .request key, .tidy 0, .poll 2, .poll 3]

/-- In the contended run one of the two that are left holds the mutex that the other waits for. -/
theorem one_mutex_contended :
    (run {} (contended ⟨.user, 7⟩)).claims =
      [⟨2, ⟨.user, 7⟩, 0, .holding⟩, ⟨3, ⟨.user, 7⟩, 0, .waiting⟩] ∧
    (run {} (contended ⟨.user, 7⟩)).mutexOf? ⟨.user, 7⟩ = some 0 :=
  ⟨by decide, (one_mutex (contended ⟨.user, 7⟩) (c := ⟨2, ⟨.user, 7⟩, 0, .holding⟩)
    (d := ⟨3, ⟨.user, 7⟩, 0, .waiting⟩) (by decide) (by decide) rfl rfl rfl).1⟩

end Companion.LockTable
