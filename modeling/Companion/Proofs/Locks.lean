import Companion.LockTable
import Mathlib.Data.List.Nodup

/-!
What the lock table keeps to. Claims have tickets of their own, a claim that still refers to a mutex
refers to the one that the table has for its record, and a mutex is in one hand at a time. So two
claims that have the mutex of one record are one claim.
-/

namespace Companion.LockTable

variable {t : LockTable}

structure Sound (t : LockTable) : Prop where
  tickets : (t.claims.map Claim.ticket).Nodup
  old : ∀ c ∈ t.claims, c.ticket < t.nextTicket
  mapped : ∀ c ∈ t.claims, c.stage.isLive = true → t.mutexOf? c.key = some c.mutex
  alone : ∀ c ∈ t.claims, ∀ d ∈ t.claims, c.mutex = d.mutex → c.stage.hasMutex = true →
    d.stage.hasMutex = true → c = d

/-- A table without claims and without records. -/
theorem sound_empty : Sound {} where
  tickets := List.nodup_nil
  old := fun _ h => nomatch h
  mapped := fun _ h => nomatch h
  alone := fun _ h => nomatch h

theorem Sound.eq_of_ticket (h : Sound t) {c d : Claim} (hc : c ∈ t.claims) (hd : d ∈ t.claims)
    (heq : c.ticket = d.ticket) : c = d :=
  List.inj_on_of_nodup_map h.tickets hc hd heq

theorem claim?_mem {ticket : Nat} {c : Claim} (h : t.claim? ticket = some c) :
    c ∈ t.claims ∧ c.ticket = ticket := by
  refine ⟨List.mem_of_find?_eq_some h, ?_⟩
  simpa using List.find?_some h

/-- A claim is found by its ticket. -/
theorem Sound.claim? (h : Sound t) {c : Claim} (hc : c ∈ t.claims) :
    t.claim? c.ticket = some c := by
  cases hfound : t.claim? c.ticket with
  | none =>
    have hnone := List.find?_eq_none.mp hfound c hc
    simp at hnone
  | some d =>
    obtain ⟨hd, heq⟩ := claim?_mem hfound
    rw [h.eq_of_ticket hd hc heq]

/-- Two claims that have the mutex of one record are one. -/
theorem Sound.exclusive (h : Sound t) {c d : Claim} (hc : c ∈ t.claims) (hd : d ∈ t.claims)
    (hkey : c.key = d.key) (hcm : c.stage.hasMutex = true) (hdm : d.stage.hasMutex = true) :
    c = d := by
  have hlive : ∀ s : ClaimStage, s.hasMutex = true → s.isLive = true := by
    intro s hs
    cases s <;> first | rfl | exact nomatch hs
  have hcmap := h.mapped c hc (hlive _ hcm)
  have hdmap := h.mapped d hd (hlive _ hdm)
  rw [hkey, hdmap] at hcmap
  exact h.alone c hc d hd (Option.some.inj hcmap).symm hcm hdm

theorem isTaken_false {mutex : Nat} (h : t.isTaken mutex = false) {c : Claim} (hc : c ∈ t.claims)
    (hmutex : c.mutex = mutex) : c.stage.hasMutex = false := by
  have hall := List.any_eq_false.mp h c hc
  simpa [hmutex] using hall

/-! ### One claim moved on -/

theorem mem_moved {ticket : Nat} {stage : ClaimStage} {d : Claim} :
    d ∈ (t.moved ticket stage).claims ↔
      ∃ c ∈ t.claims, d = if c.ticket = ticket then { c with stage } else c := by
  simp only [moved, List.mem_map]
  exact exists_congr fun c => and_congr_right fun _ => eq_comm

/-- A claim may move to a stage where it has a mutex only if it had it or nobody had. -/
theorem Sound.moved (h : Sound t) {ticket : Nat} {stage : ClaimStage}
    (hlive : stage.isLive = true → ∀ c ∈ t.claims, c.ticket = ticket → c.stage.isLive = true)
    (hfree : stage.hasMutex = true → ∀ c ∈ t.claims, c.ticket = ticket →
      c.stage.hasMutex = true ∨ t.isTaken c.mutex = false) : Sound (t.moved ticket stage) := by
  have hsame : (t.moved ticket stage).claims.map Claim.ticket = t.claims.map Claim.ticket := by
    rw [LockTable.moved, List.map_map]
    refine List.map_congr_left fun c _ => ?_
    simp only [Function.comp_apply]
    split <;> rfl
  refine ⟨hsame ▸ h.tickets, ?_, ?_, ?_⟩
  · intro d hd
    obtain ⟨c, hc, rfl⟩ := mem_moved.mp hd
    have hold := h.old c hc
    split <;> exact hold
  · intro d hd hdlive
    obtain ⟨c, hc, rfl⟩ := mem_moved.mp hd
    have hmap := h.mapped c hc
    by_cases htick : c.ticket = ticket
    · rw [if_pos htick] at hdlive ⊢
      exact hmap (hlive hdlive c hc htick)
    · rw [if_neg htick] at hdlive ⊢
      exact hmap hdlive
  · intro d hd e he hmutex hdm hem
    obtain ⟨c, hc, rfl⟩ := mem_moved.mp hd
    obtain ⟨f, hf, rfl⟩ := mem_moved.mp he
    -- where one of the two is the claim that moved, the other cannot have its mutex as well
    by_cases hct : c.ticket = ticket <;> by_cases hft : f.ticket = ticket
    · rw [h.eq_of_ticket hc hf (hct.trans hft.symm)]
    · rw [if_pos hct] at hmutex hdm
      rw [if_neg hft] at hmutex hem
      rcases hfree hdm c hc hct with hhad | hnone
      · exact absurd (h.alone c hc f hf hmutex hhad hem ▸ hct) hft
      · exact absurd hem (by simp [isTaken_false hnone hf hmutex.symm])
    · rw [if_neg hct] at hmutex hdm
      rw [if_pos hft] at hmutex hem
      rcases hfree hem f hf hft with hhad | hnone
      · exact absurd (h.alone c hc f hf hmutex hdm hhad ▸ hft) hct
      · exact absurd hdm (by simp [isTaken_false hnone hc hmutex])
    · rw [if_neg hct] at hmutex hdm ⊢
      rw [if_neg hft] at hmutex hem ⊢
      exact h.alone c hc f hf hmutex hdm hem

theorem mem_without {ticket : Nat} {c : Claim} :
    c ∈ (t.without ticket).claims ↔ c ∈ t.claims ∧ c.ticket ≠ ticket := by
  simp [without]

theorem Sound.without (h : Sound t) (ticket : Nat) : Sound (t.without ticket) where
  tickets := h.tickets.sublist (List.filter_sublist.map _)
  old := fun c hc => h.old c (mem_without.mp hc).1
  mapped := fun c hc => h.mapped c (mem_without.mp hc).1
  alone := fun c hc d hd => h.alone c (mem_without.mp hc).1 d (mem_without.mp hd).1

/-- A claim with a fresh ticket for a mutex that the table has joins without having the mutex. -/
theorem Sound.joined (h : Sound t) {c : Claim} (hfresh : ∀ d ∈ t.claims, d.ticket ≠ c.ticket)
    (hold : c.ticket < t.nextTicket) (hmap : t.mutexOf? c.key = some c.mutex)
    (hfree : c.stage.hasMutex = false) : Sound { t with claims := t.claims ++ [c] } where
  tickets := by
    rw [List.map_append, List.nodup_append]
    refine ⟨h.tickets, List.nodup_singleton _, ?_⟩
    intro a ha b hb
    obtain ⟨d, hd, rfl⟩ := List.mem_map.mp ha
    obtain rfl : b = c.ticket := by simpa using hb
    exact hfresh d hd
  old := by
    intro d hd
    rcases List.mem_append.mp hd with hd | hd
    · exact h.old d hd
    · obtain rfl := List.mem_singleton.mp hd
      exact hold
  mapped := by
    intro d hd
    rcases List.mem_append.mp hd with hd | hd
    · exact h.mapped d hd
    · obtain rfl := List.mem_singleton.mp hd
      exact fun _ => hmap
  alone := by
    intro d hd e he hmutex hdm hem
    rcases List.mem_append.mp hd with hd | hd
    · rcases List.mem_append.mp he with he | he
      · exact h.alone d hd e he hmutex hdm hem
      · obtain rfl := List.mem_singleton.mp he
        simp [hfree] at hem
    · obtain rfl := List.mem_singleton.mp hd
      simp [hfree] at hdm

theorem Sound.queued (h : Sound t) {c : Claim} (hc : c ∈ t.claims) (hlive : c.stage.isLive = true) :
    Sound (t.queued c) :=
  (h.without c.ticket).joined (fun _ hd => (mem_without.mp hd).2) (h.old c hc)
    (h.mapped c hc hlive) rfl

/-! ### Requests -/

theorem withMutex_maps (t : LockTable) (key : LockKey) :
    (t.withMutex key).2.mutexOf? key = some (t.withMutex key).1 := by
  unfold withMutex
  cases hmutex : t.mutexOf? key with
  | some mutex => exact hmutex
  | none =>
    have hlookup : t.entries.lookup key = none := hmutex
    simp [mutexOf?, List.lookup_append, hlookup]

theorem withMutex_keeps {key k : LockKey} {mutex : Nat} (h : t.mutexOf? k = some mutex) :
    (t.withMutex key).2.mutexOf? k = some mutex := by
  unfold withMutex
  split
  · exact h
  · have hlookup : t.entries.lookup k = some mutex := h
    simp [mutexOf?, List.lookup_append, hlookup]

theorem withMutex_claims (t : LockTable) (key : LockKey) :
    (t.withMutex key).2.claims = t.claims ∧ (t.withMutex key).2.nextTicket = t.nextTicket := by
  unfold withMutex
  split <;> exact ⟨rfl, rfl⟩

theorem Sound.withMutex (h : Sound t) (key : LockKey) : Sound (t.withMutex key).2 := by
  obtain ⟨hclaims, hnext⟩ := withMutex_claims t key
  refine ⟨hclaims ▸ h.tickets, ?_, ?_, hclaims ▸ h.alone⟩
  · rw [hclaims, hnext]
    exact h.old
  · rw [hclaims]
    exact fun c hc hlive => withMutex_keeps (h.mapped c hc hlive)

def requested (t : LockTable) (key : LockKey) : Claim :=
  ⟨t.nextTicket, key, (t.withMutex key).1, .requested⟩

theorem request_eq (t : LockTable) (key : LockKey) : t.request key = (t.nextTicket,
    { (t.withMutex key).2 with
      claims := t.claims ++ [t.requested key]
      nextTicket := t.nextTicket + 1 }) := by
  obtain ⟨hclaims, hnext⟩ := withMutex_claims t key
  simp only [request, requested, hclaims, hnext]

theorem Sound.request (h : Sound t) (key : LockKey) : Sound (t.request key).2 := by
  have hwith := h.withMutex key
  obtain ⟨hclaims, hnext⟩ := withMutex_claims t key
  have hgrown : Sound { (t.withMutex key).2 with nextTicket := t.nextTicket + 1 } :=
    ⟨hwith.tickets, fun c hc => Nat.lt_succ_of_lt (hnext ▸ hwith.old c hc), hwith.mapped,
      hwith.alone⟩
  have hjoined := hgrown.joined (c := t.requested key)
    (fun d hd => Nat.ne_of_lt (h.old d (hclaims ▸ hd))) (Nat.lt_succ_self _)
    (withMutex_maps t key) rfl
  rw [request_eq]
  simpa only [hclaims] using hjoined

/-! ### Going on -/

/-- The stage of a claim after it tried to go on. -/
def nextStage (taken : Bool) : ClaimStage → ClaimStage
  | .requested => if taken then .waiting else .holding
  | .granted => .holding
  | s => s

theorem Sound.mem_moved (h : Sound t) {c : Claim} (hc : c ∈ t.claims) {stage : ClaimStage}
    {d : Claim} : d ∈ (t.moved c.ticket stage).claims ↔
      d = { c with stage } ∨ d ∈ t.claims ∧ d.ticket ≠ c.ticket := by
  rw [LockTable.mem_moved]
  constructor
  · rintro ⟨e, he, rfl⟩
    by_cases heq : e.ticket = c.ticket
    · obtain rfl := h.eq_of_ticket he hc heq
      simp
    · exact .inr (by rw [if_neg heq]; exact ⟨he, heq⟩)
  · rintro (rfl | ⟨hd, hne⟩)
    · exact ⟨c, hc, by simp⟩
    · exact ⟨d, hd, by rw [if_neg hne]⟩

/-- A claim that tries to go on goes to its next stage, and the others stay where they are. -/
theorem Sound.mem_poll (h : Sound t) {c : Claim} (hc : c ∈ t.claims) {d : Claim} :
    d ∈ (t.poll c.ticket).claims ↔
      d = { c with stage := nextStage (t.isTaken c.mutex) c.stage } ∨
        d ∈ t.claims ∧ d.ticket ≠ c.ticket := by
  have hstay : d ∈ t.claims ↔ d = c ∨ d ∈ t.claims ∧ d.ticket ≠ c.ticket := by
    constructor
    · intro hd
      by_cases heq : d.ticket = c.ticket
      · exact .inl (h.eq_of_ticket hd hc heq)
      · exact .inr ⟨hd, heq⟩
    · rintro (rfl | ⟨hd, _⟩)
      · exact hc
      · exact hd
  unfold poll
  rw [h.claim? hc]
  obtain ⟨ticket, key, mutex, stage⟩ := c
  cases stage with
  | requested =>
    dsimp only [nextStage]
    split
    · simp only [LockTable.queued, List.mem_append, List.mem_singleton, mem_without, or_comm]
    · exact h.mem_moved hc
  | granted => exact h.mem_moved hc
  | waiting => exact hstay
  | holding => exact hstay
  | released => exact hstay

theorem Sound.poll (h : Sound t) (ticket : Nat) : Sound (t.poll ticket) := by
  unfold LockTable.poll
  cases hfound : t.claim? ticket with
  | none => exact h
  | some c =>
    obtain ⟨hc, rfl⟩ := claim?_mem hfound
    have hself : ∀ d ∈ t.claims, d.ticket = c.ticket → d = c := fun d hd heq =>
      h.eq_of_ticket hd hc heq
    obtain ⟨ticket, key, mutex, stage⟩ := c
    cases stage with
    | requested =>
      dsimp only
      split
      · exact h.queued hc rfl
      · next hfree =>
        refine h.moved (fun _ d hd heq => ?_) (fun _ d hd heq => ?_)
        · rw [hself d hd heq]
          rfl
        · rw [hself d hd heq]
          exact .inr (by simpa using hfree)
    | granted =>
      refine h.moved (fun _ d hd heq => ?_) (fun _ d hd heq => ?_)
      · rw [hself d hd heq]
        rfl
      · rw [hself d hd heq]
        exact .inl rfl
    | waiting => exact h
    | holding => exact h
    | released => exact h

/-! ### Giving back -/

theorem Sound.handOver (h : Sound t) {mutex : Nat} (hfree : t.isTaken mutex = false) :
    Sound (t.handOver mutex) := by
  unfold LockTable.handOver
  split
  · next c hfound =>
    have hc := List.mem_of_find?_eq_some hfound
    have hwaits : c.mutex = mutex ∧ c.stage = .waiting := by
      simpa using List.find?_some hfound
    refine h.moved (fun _ d hd heq => ?_) (fun _ d hd heq => ?_)
    · rw [h.eq_of_ticket hd hc heq, hwaits.2]
      rfl
    · rw [h.eq_of_ticket hd hc heq, hwaits.1]
      exact .inr hfree
  · exact h

/-- A mutex is handed to at most one claim, which waited for it. -/
theorem Sound.mem_handOver (h : Sound t) (mutex : Nat) : ∃ handed : Option Nat,
    (∀ c ∈ t.claims, handed = some c.ticket → c.stage = .waiting ∧ c.mutex = mutex) ∧
    ∀ d, d ∈ (t.handOver mutex).claims ↔ ∃ c ∈ t.claims,
      d = if handed = some c.ticket then { c with stage := .granted } else c := by
  unfold LockTable.handOver
  split
  · next e hfound =>
    have he := List.mem_of_find?_eq_some hfound
    have hwaits : e.mutex = mutex ∧ e.stage = .waiting := by
      simpa using List.find?_some hfound
    refine ⟨some e.ticket, fun c hc heq => ?_, fun d => ?_⟩
    · rw [h.eq_of_ticket hc he (Option.some.inj heq).symm]
      exact hwaits.symm
    · simp only [LockTable.mem_moved, Option.some.injEq, eq_comm]
  · exact ⟨none, fun _ _ heq => (nomatch heq), fun d => by simp⟩

theorem lookup_filter_ne {entries : List (LockKey × Nat)} {key k : LockKey} (h : k ≠ key) :
    (entries.filter (·.1 != key)).lookup k = entries.lookup k := by
  induction entries with
  | nil => rfl
  | cons e entries ih =>
    obtain ⟨j, m⟩ := e
    by_cases hj : j = key
    · subst hj
      have hkj : (k == j) = false := by simpa using h
      have hdrop : (((j, m) :: entries).filter (·.1 != j)) = entries.filter (·.1 != j) :=
        List.filter_cons_of_neg (by simp)
      rw [hdrop, ih, List.lookup_cons, hkj]
    · rw [List.filter_cons_of_pos (by simpa using hj), List.lookup_cons, List.lookup_cons, ih]

theorem Sound.swept (h : Sound t) (key : LockKey) : Sound (t.swept key) := by
  unfold LockTable.swept
  split
  · next mutex hmutex =>
    split
    · exact h
    · next hunused =>
      refine ⟨h.tickets, h.old, fun c hc hlive => ?_, h.alone⟩
      have hmap := h.mapped c hc hlive
      by_cases hkey : c.key = key
      · rw [hkey, hmutex] at hmap
        refine absurd (List.any_eq_true.mpr ⟨c, hc, ?_⟩) hunused
        simp [Option.some.inj hmap, hlive]
      · exact (lookup_filter_ne hkey).trans hmap
  · exact h

theorem swept_claims (t : LockTable) (key : LockKey) : (t.swept key).claims = t.claims := by
  unfold swept
  split
  · split <;> rfl
  · rfl

theorem Sound.isTaken_moved (h : Sound t) {c : Claim} (hc : c ∈ t.claims)
    (hold : c.stage.hasMutex = true) : (t.moved c.ticket .released).isTaken c.mutex = false := by
  refine List.any_eq_false.mpr fun d hd => ?_
  rcases (h.mem_moved hc).mp hd with rfl | ⟨hd, hne⟩
  · simp [ClaimStage.hasMutex]
  · intro hboth
    obtain ⟨hmutex, hdm⟩ : d.mutex = c.mutex ∧ d.stage.hasMutex = true := by simpa using hboth
    exact hne (congrArg Claim.ticket (h.alone d hd c hc hmutex hdm hold))

theorem Sound.released (h : Sound t) (ticket : Nat) : Sound (t.moved ticket .released) :=
  h.moved (fun hlive => nomatch hlive) (fun hhas => nomatch hhas)

theorem Sound.release (h : Sound t) (ticket : Nat) : Sound (t.release ticket) := by
  unfold LockTable.release
  split
  · next c hfound =>
    obtain ⟨hc, rfl⟩ := claim?_mem hfound
    split
    · next hstage =>
      exact (h.released c.ticket).handOver (h.isTaken_moved hc (by rw [hstage]; rfl))
    · exact h
  · exact h

theorem Sound.tidy (h : Sound t) (ticket : Nat) : Sound (t.tidy ticket) := by
  unfold LockTable.tidy
  split
  · split
    · exact (h.without ticket).swept _
    · exact h
  · exact h

theorem Sound.unlock (h : Sound t) (ticket : Nat) : Sound (t.unlock ticket) :=
  (h.release ticket).tidy ticket

/-- The claims that are left when a held lock is given back. -/
theorem Sound.unlock_claims (h : Sound t) {c : Claim} (hc : c ∈ t.claims)
    (hold : c.stage = .holding) : (t.unlock c.ticket).claims =
      (((t.moved c.ticket .released).handOver c.mutex).without c.ticket).claims := by
  obtain ⟨handed, hhanded, hmem⟩ := (h.released c.ticket).mem_handOver c.mutex
  have hrelease : t.release c.ticket = (t.moved c.ticket .released).handOver c.mutex := by
    simp [LockTable.release, h.claim? hc, hold]
  have hself := (h.mem_moved hc (d := { c with stage := .released })).mpr (.inl rfl)
  have hgone : handed ≠ some c.ticket := fun heq => nomatch (hhanded _ hself heq).1
  have hmember : ({ c with stage := .released } : Claim) ∈ (t.release c.ticket).claims := by
    rw [hrelease, hmem]
    exact ⟨_, hself, by rw [if_neg hgone]⟩
  have hfound := (h.release c.ticket).claim? hmember
  dsimp only at hfound
  simp only [LockTable.unlock, LockTable.tidy, hfound, if_true, swept_claims]
  rw [hrelease]

/-- A held lock that is given back leaves the table, and one claim that waited for it is handed the
mutex, if there is one. -/
theorem Sound.mem_unlock (h : Sound t) {c : Claim} (hc : c ∈ t.claims) (hold : c.stage = .holding) :
    ∃ handed : Option Nat,
      (∀ d ∈ t.claims, handed = some d.ticket → d.stage = .waiting ∧ d.mutex = c.mutex) ∧
      ∀ d, d ∈ (t.unlock c.ticket).claims ↔ ∃ e ∈ t.claims, e.ticket ≠ c.ticket ∧
        d = if handed = some e.ticket then { e with stage := .granted } else e := by
  obtain ⟨handed, hhanded, hmem⟩ := (h.released c.ticket).mem_handOver c.mutex
  have hgone : handed ≠ some c.ticket := by
    intro heq
    have hself := (h.mem_moved hc (d := { c with stage := .released })).mpr (.inl rfl)
    exact nomatch (hhanded _ hself heq).1
  have hother : ∀ d ∈ t.claims, d.ticket ≠ c.ticket →
      d ∈ (t.moved c.ticket .released).claims := fun d hd hne => (h.mem_moved hc).mpr (.inr ⟨hd, hne⟩)
  refine ⟨handed, fun d hd heq => ?_, fun d => ?_⟩
  · by_cases htick : d.ticket = c.ticket
    · exact absurd (htick ▸ heq) hgone
    · exact hhanded d (hother d hd htick) heq
  · rw [h.unlock_claims hc hold, mem_without, hmem]
    constructor
    · rintro ⟨⟨e, he, rfl⟩, hne⟩
      rcases (h.mem_moved hc).mp he with rfl | ⟨he, hticket⟩
      · rw [if_neg hgone] at hne
        exact absurd rfl hne
      · exact ⟨e, he, hticket, rfl⟩
    · rintro ⟨e, he, hne, rfl⟩
      refine ⟨⟨e, hother e he hne, rfl⟩, ?_⟩
      split <;> exact hne

end Companion.LockTable
