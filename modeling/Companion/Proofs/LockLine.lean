import Companion.Proofs.Exclusion

/-!
The line for a lock. Claims stand in the order in which they were made, and whoever waits has the one
with the mutex in front. So the mutex goes to those who asked for it in the order in which they asked.
-/

namespace Companion.LockTable

open Number Text Time

variable {t : LockTable}

/-- Claims stand in the order of their tickets, and one that waits has one that has its mutex in front
of it. -/
structure Lined (t : LockTable) : Prop where
  sorted : t.claims.Pairwise fun c d => c.ticket < d.ticket
  behind : ∀ d ∈ t.claims, d.stage = .waiting → ∃ c ∈ t.claims, c.mutex = d.mutex ∧
    c.stage.hasMutex = true ∧ c.ticket < d.ticket

theorem lined_empty : Lined {} := ⟨.nil, fun _ h => by cases h⟩

/-- One that waits for the mutex that another one has asked later than that one. -/
theorem Lined.lt_of_waiting (h : Lined t) (hs : Sound t) {c d : Claim} (hc : c ∈ t.claims)
    (hd : d ∈ t.claims) (hmutex : c.mutex = d.mutex) (hold : c.stage.hasMutex = true)
    (hwait : d.stage = .waiting) : c.ticket < d.ticket := by
  obtain ⟨e, he, hemutex, hehas, hlt⟩ := h.behind d hd hwait
  obtain rfl := hs.alone e he c hc (hemutex.trans hmutex.symm) hehas hold
  exact hlt

/-- Whoever waits for the lock of a record has asked later than the one that holds it. -/
theorem Lined.lt_of_holds (h : Lined t) (hs : Sound t) {j k : Nat} {key : LockKey}
    (hj : t.Holds j key .holding) (hk : t.Holds k key .waiting) : j < k := by
  obtain ⟨m, hj⟩ := hj
  obtain ⟨n, hk⟩ := hk
  have hmutex : m = n := Option.some.inj ((hs.mapped _ hj rfl).symm.trans (hs.mapped _ hk rfl))
  exact h.lt_of_waiting hs hj hk hmutex rfl rfl

theorem sorted_moved (h : t.claims.Pairwise fun c d => c.ticket < d.ticket) (ticket : Nat)
    (stage : ClaimStage) : (t.moved ticket stage).claims.Pairwise fun c d => c.ticket < d.ticket := by
  refine List.pairwise_map.mpr (h.imp fun {c d} hlt => ?_)
  have hticket : ∀ c : Claim, (if c.ticket = ticket then { c with stage } else c).ticket = c.ticket := by
    intro c
    split <;> rfl
  rw [hticket, hticket]
  exact hlt

/-- A claim that moves to where it has the mutex leaves the line in order. -/
theorem Lined.moved (h : Lined t) (ticket : Nat) {stage : ClaimStage}
    (hmutex : stage.hasMutex = true) : Lined (t.moved ticket stage) := by
  refine ⟨sorted_moved h.sorted ticket stage, fun d hd hwait => ?_⟩
  obtain ⟨e, he, rfl⟩ := mem_moved.mp hd
  have hstay : e.ticket ≠ ticket := by
    intro heq
    rw [if_pos heq] at hwait
    rw [show stage = .waiting from hwait] at hmutex
    cases hmutex
  rw [if_neg hstay] at hwait ⊢
  obtain ⟨c, hc, hcmutex, hhas, hlt⟩ := h.behind e he hwait
  refine ⟨_, mem_moved.mpr ⟨c, hc, rfl⟩, ?_⟩
  split
  · exact ⟨hcmutex, hmutex, hlt⟩
  · exact ⟨hcmutex, hhas, hlt⟩

/-- A claim that notices that it was handed the mutex leaves the line in order. -/
theorem Lined.poll (h : Lined t) (hs : Sound t) {c : Claim} (hc : c ∈ t.claims)
    (hstage : c.stage ≠ .requested) : Lined (t.poll c.ticket) := by
  unfold LockTable.poll
  rw [hs.claim? hc]
  dsimp only
  cases hcases : c.stage with
  | requested => exact absurd hcases hstage
  | granted => exact h.moved c.ticket rfl
  | waiting => exact h
  | holding => exact h
  | released => exact h

/-- A new claim stands at the end, and it waits only if another one has the mutex. -/
theorem Sound.claims_acquired (hs : Sound t) (key : LockKey) : ∃ stage,
    (t.acquired key).claims = t.claims ++ [{ t.requested key with stage }] ∧
    (stage = .holding ∨ stage = .waiting ∧ ∃ c ∈ t.claims, c.mutex = (t.requested key).mutex ∧
      c.stage.hasMutex = true) := by
  have hfound : (t.request key).2.claim? t.nextTicket = some (t.requested key) :=
    (hs.request key).claim? (requested_mem t key)
  have hclaims : (t.request key).2.claims = t.claims ++ [t.requested key] := by
    rw [request_eq]
  have hold : ∀ c ∈ t.claims, c.ticket ≠ t.nextTicket := fun c hc => Nat.ne_of_lt (hs.old c hc)
  have hself : (t.requested key).stage = .requested := rfl
  unfold LockTable.acquired LockTable.poll
  rw [hfound]
  simp only [hself]
  split
  · next htaken =>
    refine ⟨.waiting, ?_, .inr ⟨rfl, ?_⟩⟩
    · have hkept : t.claims.filter (·.ticket != t.nextTicket) = t.claims :=
        List.filter_eq_self.mpr fun c hc => by simpa using hold c hc
      have hgone : [t.requested key].filter (·.ticket != t.nextTicket) = [] := by
        simp [LockTable.requested]
      have hwithout : ((t.request key).2.without t.nextTicket).claims = t.claims := by
        rw [LockTable.without, hclaims, List.filter_append, hkept, hgone, List.append_nil]
      exact congrArg (· ++ _) hwithout
    · obtain ⟨c, hc, hhas⟩ := List.any_eq_true.mp htaken
      rw [hclaims] at hc
      have hboth : c.mutex = (t.requested key).mutex ∧ c.stage.hasMutex = true := by
        simpa using hhas
      rcases List.mem_append.mp hc with hc | hc
      · exact ⟨c, hc, hboth⟩
      · rw [List.mem_singleton.mp hc] at hboth
        exact absurd hboth.2 Bool.false_ne_true
  · refine ⟨.holding, ?_, .inl rfl⟩
    have hsame : t.claims.map (fun c => if c.ticket = t.nextTicket then
        { c with stage := ClaimStage.holding } else c) = t.claims := by
      conv_rhs => rw [← List.map_id t.claims]
      exact List.map_congr_left fun c hc => if_neg (hold c hc)
    rw [LockTable.moved, hclaims, List.map_append, hsame]
    simp [LockTable.requested]

/-- A new claim leaves the line in order. -/
theorem Lined.acquired (h : Lined t) (hs : Sound t) (key : LockKey) : Lined (t.acquired key) := by
  obtain ⟨stage, hclaims, hcases⟩ := hs.claims_acquired key
  refine ⟨?_, fun d hd hwait => ?_⟩
  · rw [hclaims, List.pairwise_append]
    refine ⟨h.sorted, List.pairwise_singleton _ _, fun c hc d hd => ?_⟩
    rw [List.mem_singleton.mp hd]
    exact hs.old c hc
  · rw [hclaims] at hd ⊢
    rcases List.mem_append.mp hd with hd | hd
    · obtain ⟨c, hc, hfront⟩ := h.behind d hd hwait
      exact ⟨c, List.mem_append_left _ hc, hfront⟩
    · obtain rfl := List.mem_singleton.mp hd
      rcases hcases with rfl | ⟨_, c, hc, hmutex, hhas⟩
      · cases hwait
      · exact ⟨c, List.mem_append_left _ hc, hmutex, hhas, hs.old c hc⟩

/-- The first of a kind in a line has the lowest ticket of its kind. -/
theorem find?_lt {claims : List Claim} (h : claims.Pairwise fun c d => c.ticket < d.ticket)
    {p : Claim → Bool} {c d : Claim} (hc : claims.find? p = some c) (hd : d ∈ claims)
    (hp : p d = true) (hne : d ≠ c) : c.ticket < d.ticket := by
  induction claims with
  | nil => cases hd
  | cons e claims ih =>
    obtain ⟨hfirst, hrest⟩ := List.pairwise_cons.mp h
    rw [List.find?_cons] at hc
    split at hc
    · obtain rfl := Option.some.inj hc
      rcases List.mem_cons.mp hd with rfl | hd
      · exact absurd rfl hne
      · exact hfirst d hd
    · next hnot =>
      rcases List.mem_cons.mp hd with rfl | hd
      · rw [hp] at hnot
        cases hnot
      · exact ih hrest hc hd

/-- A mutex is handed to the first of those who wait for it, or nobody waits. -/
theorem handOver_cases (h : t.claims.Pairwise fun c d => c.ticket < d.ticket) (mutex : Nat) :
    (t.handOver mutex = t ∧ ∀ e ∈ t.claims, e.mutex = mutex → e.stage ≠ .waiting) ∨
      ∃ f ∈ t.claims, t.handOver mutex = t.moved f.ticket .granted ∧ f.mutex = mutex ∧
        f.stage = .waiting ∧
        ∀ e ∈ t.claims, e.mutex = mutex → e.stage = .waiting → e ≠ f → f.ticket < e.ticket := by
  unfold handOver
  split
  · next f hfound =>
    have hwaits : f.mutex = mutex ∧ f.stage = .waiting := by
      simpa using List.find?_some hfound
    refine .inr ⟨f, List.mem_of_find?_eq_some hfound, rfl, hwaits.1, hwaits.2, ?_⟩
    intro e he hmutex hstage hne
    exact find?_lt h hfound he (by simp [hmutex, hstage]) hne
  · next hnone =>
    refine .inl ⟨rfl, fun e he hmutex hstage => ?_⟩
    have hnot := List.find?_eq_none.mp hnone e he
    simp [hmutex, hstage] at hnot

/-- A held lock that is given back leaves the line in order: the one in front of it gets the mutex. -/
theorem Lined.unlock (h : Lined t) (hs : Sound t) {c : Claim} (hc : c ∈ t.claims)
    (hold : c.stage = .holding) : Lined (t.unlock c.ticket) := by
  have hclaims := hs.unlock_claims hc hold
  have hhas : c.stage.hasMutex = true := by
    rw [hold]
    rfl
  have hsorted := sorted_moved h.sorted c.ticket .released
  have hstay : ∀ e ∈ t.claims, e.ticket ≠ c.ticket → e ∈ (t.moved c.ticket .released).claims :=
    fun e he hne => (hs.mem_moved hc).mpr (.inr ⟨he, hne⟩)
  have hwas : ∀ e ∈ (t.moved c.ticket .released).claims, e.ticket ≠ c.ticket → e ∈ t.claims := by
    intro e he hne
    rcases (hs.mem_moved hc).mp he with rfl | ⟨he, _⟩
    · exact absurd rfl hne
    · exact he
  -- whoever waits for another mutex has the same claim in front of it as before
  have hfront : ∀ e ∈ t.claims, e.stage = .waiting → e.mutex ≠ c.mutex → ∃ g ∈ t.claims,
      g.ticket ≠ c.ticket ∧ g.mutex = e.mutex ∧ g.stage.hasMutex = true ∧ g.ticket < e.ticket := by
    intro e he hwait hother
    obtain ⟨g, hg, hmutex, hghas, hlt⟩ := h.behind e he hwait
    refine ⟨g, hg, fun hticket => hother ?_, hmutex, hghas, hlt⟩
    rw [← hmutex, hs.eq_of_ticket hg hc hticket]
  rcases handOver_cases hsorted c.mutex with ⟨hsame, hnobody⟩ | ⟨f, hf, hmoved, hfmutex, hfwait, hfirst⟩
  · rw [hsame] at hclaims
    refine ⟨?_, fun d hd hwait => ?_⟩
    · rw [hclaims]
      exact hsorted.filter _
    · rw [hclaims] at hd ⊢
      obtain ⟨hd, hne⟩ := mem_without.mp hd
      obtain ⟨g, hg, hgne, hfrontd⟩ := hfront d (hwas d hd hne) hwait
        fun hmutex => hnobody d hd hmutex hwait
      exact ⟨g, mem_without.mpr ⟨hstay g hg hgne, hgne⟩, hfrontd⟩
  · rw [hmoved] at hclaims
    have hfne : f.ticket ≠ c.ticket := by
      rintro heq
      rcases (hs.mem_moved hc).mp hf with rfl | ⟨_, hne⟩
      · cases hfwait
      · exact hne heq
    have hft := hwas f hf hfne
    refine ⟨?_, fun d hd hwait => ?_⟩
    · rw [hclaims]
      exact (sorted_moved hsorted f.ticket .granted).filter _
    · rw [hclaims] at hd ⊢
      obtain ⟨hd, hne⟩ := mem_without.mp hd
      rcases ((hs.released c.ticket).mem_moved hf).mp hd with rfl | ⟨hd, hdf⟩
      · cases hwait
      · by_cases hmutex : d.mutex = c.mutex
        · refine ⟨{ f with stage := .granted }, mem_without.mpr ⟨?_, hfne⟩,
            hfmutex.trans hmutex.symm, rfl, hfirst d hd hmutex hwait ?_⟩
          · exact ((hs.released c.ticket).mem_moved hf).mpr (.inl rfl)
          · rintro rfl
            exact hdf rfl
        · obtain ⟨g, hg, hgne, hgmutex, hghas, hlt⟩ := hfront d (hwas d hd hne) hwait hmutex
          have hgf : g.ticket ≠ f.ticket := by
            intro heq
            rw [hs.eq_of_ticket hg hft heq, hfwait] at hghas
            cases hghas
          refine ⟨g, mem_without.mpr ⟨?_, hgne⟩, hgmutex, hghas, hlt⟩
          exact ((hs.released c.ticket).mem_moved hf).mpr (.inr ⟨hstay g hg hgne, hgf⟩)

/-! ### Tickets -/

theorem nextTicket_poll (t : LockTable) (ticket : Nat) : (t.poll ticket).nextTicket = t.nextTicket := by
  unfold poll
  split
  · split
    · split <;> rfl
    · rfl
    · rfl
  · rfl

theorem nextTicket_acquired (t : LockTable) (key : LockKey) :
    (t.acquired key).nextTicket = t.nextTicket + 1 := by
  unfold LockTable.acquired
  rw [nextTicket_poll, request_eq]

theorem nextTicket_unlock (t : LockTable) (ticket : Nat) :
    (t.unlock ticket).nextTicket = t.nextTicket := by
  have hhanded : ∀ (t : LockTable) (mutex : Nat), (t.handOver mutex).nextTicket = t.nextTicket := by
    intro t mutex
    unfold handOver
    split <;> rfl
  have hreleased : (t.release ticket).nextTicket = t.nextTicket := by
    unfold release
    split
    · split
      · exact hhanded _ _
      · rfl
    · rfl
  have hswept : ∀ (t : LockTable) (key : LockKey), (t.swept key).nextTicket = t.nextTicket := by
    intro t key
    unfold swept
    split
    · split <;> rfl
    · rfl
  unfold unlock tidy
  split
  · split
    · exact (hswept _ _).trans hreleased
    · exact hreleased
  · exact hreleased

end Companion.LockTable
