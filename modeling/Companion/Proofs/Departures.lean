import Companion.Proofs.LockRuns

/-!
Which records have an entry in the lock table. A claim that is made, waits or holds keeps the entry of
its record, and whoever gives a lock back takes the entry away unless another claim still needs it. A
claim that is given up takes nothing away. So an entry outlives the claims on its record if the last of
them to leave was given up, and only then; that one was handed the mutex and had not noticed, or it had
not tried to get it.
-/

namespace Companion.LockTable

variable {t : LockTable}

/-- The claim that an action takes out of the table, as it was before. -/
def leaver? (t : LockTable) : Action → Option Claim
  | .cancel ticket => (t.claim? ticket).filter fun c => c.stage.isLive && c.stage != .holding
  | .tidy ticket => (t.claim? ticket).filter fun c => !c.stage.isLive
  | _ => none

def leavers (t : LockTable) : List Action → List Claim
  | [] => []
  | a :: actions => (t.leaver? a).toList ++ (t.act a).leavers actions

def lastOn (key : LockKey) (claims : List Claim) : Option Claim :=
  (claims.filter fun c => c.key = key).getLast?

theorem lastOn_append (key : LockKey) (claims : List Claim) (c : Claim) :
    lastOn key (claims ++ [c]) = if c.key = key then some c else lastOn key claims := by
  unfold lastOn
  by_cases hkey : c.key = key <;> simp [List.filter_append, hkey]

def IsClaimed (t : LockTable) (key : LockKey) : Prop := ∃ c ∈ t.claims, c.key = key

/-! ### Entries -/

theorem mutexOf?_withMutex (t : LockTable) (key k : LockKey) : (t.withMutex key).2.mutexOf? k =
    (t.mutexOf? k).or (if k = key then some t.nextMutex else none) := by
  unfold withMutex
  split
  · next mutex hmutex =>
    by_cases hk : k = key
    · subst hk
      rw [hmutex, Option.some_or]
    · rw [if_neg hk, Option.or_none]
  · by_cases hk : k = key
    · simp [mutexOf?, List.lookup_append, hk]
    · simp [mutexOf?, List.lookup_append, List.lookup_cons, hk, beq_eq_false_iff_ne.mpr hk]

/-- A table has the entries that another one has, and would make the same mutex next. -/
structure SameEntries (t t' : LockTable) : Prop where
  entries : t'.entries = t.entries
  nextMutex : t'.nextMutex = t.nextMutex

theorem SameEntries.mutexOf? {t' : LockTable} (h : SameEntries t t') (k : LockKey) :
    t'.mutexOf? k = t.mutexOf? k := congrArg (List.lookup k) h.entries

theorem sameEntries_handOver (t : LockTable) (mutex : Nat) : SameEntries t (t.handOver mutex) := by
  unfold handOver
  split <;> exact ⟨rfl, rfl⟩

theorem sameEntries_poll (t : LockTable) (ticket : Nat) : SameEntries t (t.poll ticket) := by
  unfold poll
  split
  · split
    · split <;> exact ⟨rfl, rfl⟩
    · exact ⟨rfl, rfl⟩
    · exact ⟨rfl, rfl⟩
  · exact ⟨rfl, rfl⟩

theorem sameEntries_release (t : LockTable) (ticket : Nat) : SameEntries t (t.release ticket) := by
  unfold release
  split
  · split
    · obtain ⟨hentries, hnext⟩ := sameEntries_handOver (t.moved ticket .released) _
      exact ⟨hentries, hnext⟩
    · exact ⟨rfl, rfl⟩
  · exact ⟨rfl, rfl⟩

theorem sameEntries_cancel (t : LockTable) (ticket : Nat) : SameEntries t (t.cancel ticket) := by
  rcases cancel_cases t ticket with heq | heq | ⟨mutex, heq⟩
  · rw [heq]
    exact ⟨rfl, rfl⟩
  · rw [heq]
    exact ⟨rfl, rfl⟩
  · rw [heq]
    obtain ⟨hentries, hnext⟩ := sameEntries_handOver (t.without ticket) mutex
    exact ⟨hentries, hnext⟩

theorem mutexOf?_swept (t : LockTable) {key k : LockKey} (hk : k ≠ key) :
    (t.swept key).mutexOf? k = t.mutexOf? k := by
  unfold swept
  split
  · split
    · rfl
    · exact lookup_filter_ne hk
  · rfl

theorem lookup_filter_self (key : LockKey) (entries : List (LockKey × Nat)) :
    (entries.filter (·.1 != key)).lookup key = none := by
  refine List.lookup_eq_none_iff.mpr fun e he => ?_
  rw [bne_comm]
  exact (List.mem_filter.mp he).2

/-- Sweeping takes an entry away whose mutex no claim refers to. -/
theorem mutexOf?_swept_self {key : LockKey}
    (hfree : ∀ mutex, t.mutexOf? key = some mutex → t.isReferred mutex = false) :
    (t.swept key).mutexOf? key = none := by
  unfold swept
  split
  · next mutex hmutex =>
    rw [if_neg (by simp [hfree mutex hmutex])]
    exact lookup_filter_self key t.entries
  · next hnone => exact hnone

/-- No two records have one mutex, and mutexes are made once. -/
structure Distinct (t : LockTable) : Prop where
  old : ∀ {key mutex}, t.mutexOf? key = some mutex → mutex < t.nextMutex
  apart : ∀ {j k mutex}, t.mutexOf? j = some mutex → t.mutexOf? k = some mutex → j = k

/-- A request takes the mutex of its record, or makes one that no record has. -/
theorem Distinct.request (h : Distinct t) (key : LockKey) : Distinct (t.request key).2 := by
  have hnext : t.nextMutex ≤ (t.withMutex key).2.nextMutex := by
    unfold withMutex
    split
    · exact Nat.le_refl _
    · exact Nat.le_succ _
  have hcases : ∀ {k mutex}, (t.withMutex key).2.mutexOf? k = some mutex → t.mutexOf? k = some mutex ∨
      k = key ∧ t.mutexOf? k = none ∧ mutex = t.nextMutex ∧ mutex < (t.withMutex key).2.nextMutex := by
    intro k mutex hmutex
    rw [mutexOf?_withMutex] at hmutex
    cases hk : t.mutexOf? k with
    | some m =>
      rw [hk, Option.some_or] at hmutex
      exact .inl hmutex
    | none =>
      rw [hk, Option.none_or, Option.ite_none_right_eq_some] at hmutex
      obtain ⟨rfl, heq⟩ := hmutex
      refine .inr ⟨rfl, rfl, (Option.some.inj heq).symm, ?_⟩
      rw [withMutex, hk, ← Option.some.inj heq]
      exact Nat.lt_succ_self _
  rw [request_eq]
  refine ⟨fun hmutex => ?_, fun hj hk => ?_⟩
  · rcases hcases hmutex with hold | ⟨-, -, -, hnew⟩
    · exact Nat.lt_of_lt_of_le (h.old hold) hnext
    · exact hnew
  · rcases hcases hj with hj | ⟨rfl, hjnone, hjnew, -⟩
    · rcases hcases hk with hk | ⟨-, -, rfl, -⟩
      · exact h.apart hj hk
      · exact absurd (h.old hj) (Nat.lt_irrefl _)
    · rcases hcases hk with hk | ⟨rfl, -, -, -⟩
      · exact absurd (hjnew ▸ h.old hk) (Nat.lt_irrefl _)
      · rfl

theorem Distinct.of_same (h : Distinct t) {t' : LockTable} (hsame : SameEntries t t') :
    Distinct t' where
  old := fun {k _} hmutex => hsame.nextMutex ▸ h.old (hsame.mutexOf? k ▸ hmutex)
  apart := fun {j k _} hj hk => h.apart (hsame.mutexOf? j ▸ hj) (hsame.mutexOf? k ▸ hk)

theorem Distinct.swept (h : Distinct t) (key : LockKey) : Distinct (t.swept key) := by
  have hnext : (t.swept key).nextMutex = t.nextMutex := by
    unfold LockTable.swept
    split
    · split <;> rfl
    · rfl
  have hkept : ∀ {k mutex}, (t.swept key).mutexOf? k = some mutex → t.mutexOf? k = some mutex := by
    intro k mutex hmutex
    by_cases hk : k = key
    · subst hk
      unfold LockTable.swept at hmutex
      split at hmutex
      · split at hmutex
        · exact hmutex
        · exact absurd ((lookup_filter_self k t.entries).symm.trans hmutex) nofun
      · exact hmutex
    · rwa [mutexOf?_swept t hk] at hmutex
  exact ⟨fun hmutex => hnext ▸ h.old (hkept hmutex), fun hj hk => h.apart (hkept hj) (hkept hk)⟩

theorem Distinct.tidy (h : Distinct t) (ticket : Nat) : Distinct (t.tidy ticket) := by
  unfold LockTable.tidy
  split
  · split
    · have hsame : SameEntries t (t.without ticket) := ⟨rfl, rfl⟩
      exact (h.of_same hsame).swept _
    · exact h
  · exact h

/-- Every action keeps the mutexes of records apart. -/
theorem Distinct.act (h : Distinct t) (a : Action) : Distinct (t.act a) := by
  cases a with
  | request key => exact h.request key
  | poll ticket => exact h.of_same (sameEntries_poll t ticket)
  | cancel ticket => exact h.of_same (sameEntries_cancel t ticket)
  | release ticket => exact h.of_same (sameEntries_release t ticket)
  | tidy ticket => exact h.tidy ticket

/-! ### Those who wait -/

/-- Whoever waits for a mutex waits for a claim that has it. `but` is a mutex that nobody need have. -/
def Attended (t : LockTable) (but : Option Nat) : Prop :=
  ∀ d ∈ t.claims, d.stage = .waiting → but ≠ some d.mutex →
    ∃ c ∈ t.claims, c.mutex = d.mutex ∧ c.stage.hasMutex = true

/-- A claim that moves to where it has its mutex leaves nobody unattended. -/
theorem Attended.moved {but : Option Nat} (h : Attended t but) (ticket : Nat) {stage : ClaimStage}
    (hstage : stage.hasMutex = true) : Attended (t.moved ticket stage) but := by
  intro d hd hwait hbut
  obtain ⟨e, he, rfl⟩ := mem_moved.mp hd
  have hother : e.ticket ≠ ticket := by
    rintro rfl
    rw [if_pos rfl] at hwait
    rw [show stage = .waiting from hwait] at hstage
    cases hstage
  rw [if_neg hother] at hwait hbut ⊢
  obtain ⟨c, hc, hmutex, hhas⟩ := h e he hwait hbut
  refine ⟨_, mem_moved.mpr ⟨c, hc, rfl⟩, ?_⟩
  split
  · exact ⟨hmutex, hstage⟩
  · exact ⟨hmutex, hhas⟩

/-- A claim that leaves lets those wait unattended at most who wait for its mutex. -/
theorem Attended.without (h : Attended t none) (hs : Sound t) {c : Claim} (hc : c ∈ t.claims)
    {but : Option Nat} (hbut : c.stage.hasMutex = true → but = some c.mutex) :
    Attended (t.without c.ticket) but := by
  intro d hd hwait hother
  obtain ⟨e, he, hmutex, hhas⟩ := h d (mem_without.mp hd).1 hwait nofun
  refine ⟨e, mem_without.mpr ⟨he, fun hticket => hother ?_⟩, hmutex, hhas⟩
  obtain rfl := hs.eq_of_ticket he hc hticket
  rw [hbut hhas, hmutex]

/-- A mutex that is handed over leaves nobody unattended. -/
theorem Attended.handOver {mutex : Nat} (h : Attended t (some mutex)) :
    Attended (t.handOver mutex) none := by
  unfold LockTable.handOver
  split
  · next f hfound =>
    have hf := List.mem_of_find?_eq_some hfound
    have hwaits : f.mutex = mutex ∧ f.stage = .waiting := by
      simpa using List.find?_some hfound
    intro d hd hwait _
    by_cases hmutex : d.mutex = mutex
    · refine ⟨_, mem_moved.mpr ⟨f, hf, rfl⟩, ?_⟩
      rw [if_pos rfl]
      exact ⟨hwaits.1.trans hmutex.symm, rfl⟩
    · exact h.moved f.ticket rfl d hd hwait fun heq => hmutex (Option.some.inj heq).symm
  · next hnone =>
    intro d hd hwait _
    refine h d hd hwait fun heq => ?_
    have hnot := List.find?_eq_none.mp hnone d hd
    simp [← Option.some.inj heq, hwait] at hnot

/-- A claim that tries to go on waits only for one that has the mutex. -/
theorem Attended.poll (h : Attended t none) (hs : Sound t) (ticket : Nat) :
    Attended (t.poll ticket) none := by
  unfold LockTable.poll
  split
  · next c hfound =>
    obtain ⟨hc, rfl⟩ := claim?_mem hfound
    split
    · next hstage =>
      have hnone : c.stage.hasMutex = true → (none : Option Nat) = some c.mutex := by
        rw [hstage]
        exact nofun
      split
      · next htaken =>
        have hleft := h.without hs hc hnone
        obtain ⟨g, hg, hboth⟩ := List.any_eq_true.mp htaken
        obtain ⟨hmutex, hhas⟩ : g.mutex = c.mutex ∧ g.stage.hasMutex = true := by simpa using hboth
        have hgc : g.ticket ≠ c.ticket := by
          intro hticket
          obtain rfl := hs.eq_of_ticket hg hc hticket
          rw [hstage] at hhas
          cases hhas
        intro d hd hwait hbut
        rcases List.mem_append.mp hd with hd | hd
        · obtain ⟨e, he, hattends⟩ := hleft d hd hwait hbut
          exact ⟨e, List.mem_append_left _ he, hattends⟩
        · obtain rfl := List.mem_singleton.mp hd
          exact ⟨g, List.mem_append_left _ (mem_without.mpr ⟨hg, hgc⟩), hmutex, hhas⟩
      · exact h.moved c.ticket rfl
    · exact h.moved c.ticket rfl
    · exact h
  · exact h

theorem Attended.release (h : Attended t none) (hs : Sound t) (ticket : Nat) :
    Attended (t.release ticket) none := by
  unfold LockTable.release
  split
  · next c hfound =>
    obtain ⟨hc, rfl⟩ := claim?_mem hfound
    split
    · next hstage =>
      refine Attended.handOver fun d hd hwait hother => ?_
      rcases (hs.mem_moved hc).mp hd with rfl | ⟨hd, -⟩
      · cases hwait
      · obtain ⟨e, he, hmutex, hhas⟩ := h d hd hwait nofun
        refine ⟨e, (hs.mem_moved hc).mpr (.inr ⟨he, fun hticket => hother ?_⟩), hmutex, hhas⟩
        rw [← hmutex, hs.eq_of_ticket he hc hticket]
    · exact h
  · exact h

theorem Attended.cancel (h : Attended t none) (hs : Sound t) (ticket : Nat) :
    Attended (t.cancel ticket) none := by
  unfold LockTable.cancel
  split
  · next c hfound =>
    obtain ⟨hc, rfl⟩ := claim?_mem hfound
    split
    · next hstage => exact h.without hs hc (by rw [hstage]; exact nofun)
    · next hstage => exact h.without hs hc (by rw [hstage]; exact nofun)
    · exact (h.without hs hc fun _ => rfl).handOver
    · exact h
  · exact h

theorem Attended.tidy (h : Attended t none) (hs : Sound t) (ticket : Nat) :
    Attended (t.tidy ticket) none := by
  unfold LockTable.tidy
  split
  · next c hfound =>
    obtain ⟨hc, rfl⟩ := claim?_mem hfound
    split
    · next hstage =>
      have hleft : Attended (t.without c.ticket) none :=
        h.without hs hc (by rw [hstage]; exact nofun)
      unfold Attended
      rw [swept_claims]
      exact hleft
    · exact h
  · exact h

theorem Attended.act (h : Attended t none) (hs : Sound t) (a : Action) : Attended (t.act a) none := by
  cases a with
  | request key =>
    rw [LockTable.act, request_eq]
    intro d hd hwait hbut
    rcases List.mem_append.mp hd with hd | hd
    · obtain ⟨c, hc, hattends⟩ := h d hd hwait hbut
      exact ⟨c, List.mem_append_left _ hc, hattends⟩
    · obtain rfl := List.mem_singleton.mp hd
      cases hwait
  | poll ticket => exact h.poll hs ticket
  | cancel ticket => exact h.cancel hs ticket
  | release ticket => exact h.release hs ticket
  | tidy ticket => exact h.tidy hs ticket

/-! ### Claims that leave -/

theorem isClaimed_moved (t : LockTable) (ticket : Nat) (stage : ClaimStage) (k : LockKey) :
    (t.moved ticket stage).IsClaimed k ↔ t.IsClaimed k := by
  have hkey : ∀ c : Claim, (if c.ticket = ticket then { c with stage } else c).key = c.key := by
    intro c
    split <;> rfl
  constructor
  · rintro ⟨d, hd, rfl⟩
    obtain ⟨c, hc, rfl⟩ := mem_moved.mp hd
    exact ⟨c, hc, (hkey c).symm⟩
  · rintro ⟨c, hc, rfl⟩
    exact ⟨_, mem_moved.mpr ⟨c, hc, rfl⟩, hkey c⟩

theorem isClaimed_handOver (t : LockTable) (mutex : Nat) (k : LockKey) :
    (t.handOver mutex).IsClaimed k ↔ t.IsClaimed k := by
  unfold handOver
  split
  · exact isClaimed_moved t _ _ k
  · rfl

theorem isClaimed_release (t : LockTable) (ticket : Nat) (k : LockKey) :
    (t.release ticket).IsClaimed k ↔ t.IsClaimed k := by
  unfold release
  split
  · split
    · exact (isClaimed_handOver _ _ k).trans (isClaimed_moved t ticket _ k)
    · rfl
  · rfl

theorem Sound.isClaimed_poll (h : Sound t) (ticket : Nat) {k : LockKey} (hk : t.IsClaimed k) :
    (t.poll ticket).IsClaimed k := by
  obtain ⟨d, hd, rfl⟩ := hk
  cases hfound : t.claim? ticket with
  | none =>
    rw [LockTable.poll, hfound]
    exact ⟨d, hd, rfl⟩
  | some c =>
    obtain ⟨hc, rfl⟩ := claim?_mem hfound
    by_cases hticket : d.ticket = c.ticket
    · obtain rfl := h.eq_of_ticket hd hc hticket
      exact ⟨_, (h.mem_poll hd).mpr (.inl rfl), rfl⟩
    · exact ⟨d, (h.mem_poll hc).mpr (.inr ⟨hd, hticket⟩), rfl⟩

theorem Sound.isClaimed_without (h : Sound t) {c : Claim} (hc : c ∈ t.claims) {k : LockKey}
    (hk : k ≠ c.key) (hclaimed : t.IsClaimed k) : (t.without c.ticket).IsClaimed k := by
  obtain ⟨d, hd, rfl⟩ := hclaimed
  refine ⟨d, mem_without.mpr ⟨hd, fun hticket => hk ?_⟩, rfl⟩
  rw [h.eq_of_ticket hd hc hticket]

/-- What is left of the entries where there is no claim: those of records whose last claim was given up,
after it was handed the mutex or before it tried to get it. -/
def Outlived (t : LockTable) (left : List Claim) : Prop :=
  ∀ key, ¬ t.IsClaimed key → ((t.mutexOf? key).isSome = true ↔
    ∃ c, lastOn key left = some c ∧ (c.stage = .requested ∨ c.stage = .granted))

variable {t' : LockTable} {left : List Claim}

/-- An action that takes no claim out of the table lets no entry outlive its claims. -/
theorem Outlived.stays (h : Outlived t left) (hclaimed : ∀ k, t.IsClaimed k → t'.IsClaimed k)
    (hentries : ∀ k, ¬ t'.IsClaimed k → t'.mutexOf? k = t.mutexOf? k) :
    Outlived t' (left ++ []) := by
  intro key hnone
  rw [hentries key hnone, List.append_nil]
  exact h key fun hkey => hnone (hclaimed key hkey)

/-- When a claim leaves, it decides about the entry of its record alone, and only if it is the last. -/
theorem Outlived.leaves (h : Outlived t left) {c : Claim}
    (hclaimed : ∀ k, k ≠ c.key → t.IsClaimed k → t'.IsClaimed k)
    (hentries : ∀ k, k ≠ c.key → t'.mutexOf? k = t.mutexOf? k)
    (hlast : ¬ t'.IsClaimed c.key →
      ((t'.mutexOf? c.key).isSome = true ↔ c.stage = .requested ∨ c.stage = .granted)) :
    Outlived t' (left ++ [c]) := by
  intro key hnone
  rw [lastOn_append]
  by_cases hkey : c.key = key
  · subst hkey
    rw [if_pos rfl, hlast hnone]
    constructor
    · exact fun hstage => ⟨c, rfl, hstage⟩
    · rintro ⟨d, heq, hstage⟩
      rwa [Option.some.inj heq]
  · rw [if_neg hkey, hentries key (Ne.symm hkey)]
    exact h key fun hclaim => hnone (hclaimed key (Ne.symm hkey) hclaim)

/-- A claim that is given up leaves the entry of its record. If it waits, another one has the mutex and
is still there. -/
theorem Outlived.cancel (h : Outlived t left) (hs : Sound t) (hd : Distinct t) (ha : Attended t none)
    (ticket : Nat) : Outlived (t.cancel ticket) (left ++ (t.leaver? (.cancel ticket)).toList) := by
  cases hfound : t.claim? ticket with
  | none =>
    have hsame : t.cancel ticket = t := by rw [LockTable.cancel, hfound]
    rw [leaver?, hfound, hsame]
    exact h.stays (fun _ hk => hk) fun _ _ => rfl
  | some c =>
    obtain ⟨hc, rfl⟩ := claim?_mem hfound
    by_cases hleaves : c.stage.isLive = true ∧ c.stage ≠ .holding
    · have hleaver : t.leaver? (.cancel c.ticket) = some c := by
        simp [leaver?, hfound, Option.filter, hleaves]
      have hclaims : ∀ k, (t.without c.ticket).IsClaimed k → (t.cancel c.ticket).IsClaimed k := by
        intro k hk
        rcases cancel_cases t c.ticket with heq | heq | ⟨mutex, heq⟩
        · rw [heq]
          obtain ⟨d, hd, hkey⟩ := hk
          exact ⟨d, (mem_without.mp hd).1, hkey⟩
        · rwa [heq]
        · rw [heq]
          exact (isClaimed_handOver _ _ k).mpr hk
      rw [hleaver]
      refine h.leaves (fun k hk hclaimed => hclaims k (hs.isClaimed_without hc hk hclaimed))
        (fun k _ => (sameEntries_cancel t _).mutexOf? k) fun hnone => ?_
      rw [(sameEntries_cancel t _).mutexOf?, hs.mapped c hc hleaves.1]
      refine iff_of_true rfl ?_
      cases hstage : c.stage with
      | requested => exact .inl rfl
      | granted => exact .inr rfl
      | holding => exact absurd hstage hleaves.2
      | released => simp [hstage, ClaimStage.isLive] at hleaves
      | waiting =>
        obtain ⟨e, he, hmutex, hhas⟩ := ha c hc hstage nofun
        have hlive : e.stage.isLive = true := by
          cases hstage : e.stage <;> simp_all [ClaimStage.hasMutex, ClaimStage.isLive]
        have hkey : e.key = c.key :=
          hd.apart (hs.mapped e he hlive) (hmutex ▸ hs.mapped c hc hleaves.1)
        refine absurd (hclaims c.key ⟨e, mem_without.mpr ⟨he, fun hticket => ?_⟩, hkey⟩) hnone
        obtain rfl := hs.eq_of_ticket he hc hticket
        rw [hstage] at hhas
        cases hhas
    · have hsame : t.cancel c.ticket = t := by
        rw [LockTable.cancel, hfound]
        cases hstage : c.stage <;> simp_all [ClaimStage.isLive]
      have hleaver : t.leaver? (.cancel c.ticket) = none := by
        simpa [leaver?, hfound, Option.filter] using hleaves
      rw [hleaver, hsame]
      exact h.stays (fun _ hk => hk) fun _ _ => rfl

/-- The last claim that gave its lock back takes the entry of its record away. -/
theorem Outlived.tidy (h : Outlived t left) (hs : Sound t) (hd : Distinct t) (ticket : Nat) :
    Outlived (t.tidy ticket) (left ++ (t.leaver? (.tidy ticket)).toList) := by
  cases hfound : t.claim? ticket with
  | none =>
    have hsame : t.tidy ticket = t := by rw [LockTable.tidy, hfound]
    rw [leaver?, hfound, hsame]
    exact h.stays (fun _ hk => hk) fun _ _ => rfl
  | some c =>
    obtain ⟨hc, rfl⟩ := claim?_mem hfound
    by_cases hstage : c.stage = .released
    · have hleaver : t.leaver? (.tidy c.ticket) = some c := by
        simp [leaver?, hfound, Option.filter, hstage, ClaimStage.isLive]
      have htidy : t.tidy c.ticket = (t.without c.ticket).swept c.key := by
        simp only [LockTable.tidy, hfound, hstage, if_true]
      have hclaims : ∀ k, (t.without c.ticket).IsClaimed k ↔
          ((t.without c.ticket).swept c.key).IsClaimed k := by
        intro k
        unfold IsClaimed
        rw [swept_claims]
      rw [hleaver, htidy]
      refine h.leaves
        (fun k hk hclaimed => (hclaims k).mp (hs.isClaimed_without hc hk hclaimed))
        (fun k hk => mutexOf?_swept _ hk) fun hnone => ?_
      rw [mutexOf?_swept_self fun mutex hmutex => ?_]
      · simp [hstage]
      · refine List.any_eq_false.mpr fun d hdw hboth => hnone ((hclaims _).mp ⟨d, hdw, ?_⟩)
        obtain ⟨rfl, hlive⟩ : d.mutex = mutex ∧ d.stage.isLive = true := by simpa using hboth
        exact hd.apart (hs.mapped d (mem_without.mp hdw).1 hlive) hmutex
    · have hsame : t.tidy c.ticket = t := by simp [LockTable.tidy, hfound, hstage]
      have hleaver : t.leaver? (.tidy c.ticket) = none := by
        cases hcases : c.stage <;> simp_all [leaver?, Option.filter, ClaimStage.isLive]
      rw [hleaver, hsame]
      exact h.stays (fun _ hk => hk) fun _ _ => rfl

/-! ### Runs -/

/-- What every action keeps, with the claims that have left. -/
structure Accounted (t : LockTable) (left : List Claim) : Prop where
  sound : Sound t
  distinct : Distinct t
  attended : Attended t none
  outlived : Outlived t left

theorem accounted_empty : Accounted {} [] where
  sound := sound_empty
  distinct := ⟨nofun, nofun⟩
  attended := nofun
  outlived := fun _ _ => iff_of_false nofun nofun

/-- Every action keeps the account of the entries. -/
theorem Accounted.act (h : Accounted t left) (a : Action) :
    Accounted (t.act a) (left ++ (t.leaver? a).toList) := by
  refine ⟨h.sound.act a, h.distinct.act a, h.attended.act h.sound a, ?_⟩
  cases a with
  | request key =>
    rw [LockTable.act, request_eq]
    refine h.outlived.stays
      (fun k hk => hk.imp fun c hc => ⟨List.mem_append_left _ hc.1, hc.2⟩) fun k hnone => ?_
    have hk : k ≠ key := by
      rintro rfl
      exact hnone ⟨_, List.mem_append_right _ List.mem_cons_self, rfl⟩
    exact (mutexOf?_withMutex t key k).trans (by rw [if_neg hk, Option.or_none])
  | poll ticket =>
    exact h.outlived.stays (fun k hk => h.sound.isClaimed_poll ticket hk) fun k _ =>
      (sameEntries_poll t ticket).mutexOf? k
  | cancel ticket => exact h.outlived.cancel h.sound h.distinct h.attended ticket
  | release ticket =>
    exact h.outlived.stays (fun k => (isClaimed_release t ticket k).mpr) fun k _ =>
      (sameEntries_release t ticket).mutexOf? k
  | tidy ticket => exact h.outlived.tidy h.sound h.distinct ticket

theorem Accounted.run (h : Accounted t left) (actions : List Action) :
    Accounted (t.run actions) (left ++ t.leavers actions) := by
  induction actions generalizing t left with
  | nil =>
    rw [leavers, List.append_nil]
    exact h
  | cons a actions ih =>
    have hrest := ih (h.act a)
    rwa [List.append_assoc] at hrest

/-- After every run of actions, a record that nobody is about to give back has an entry if there is a
claim on it, or if the last claim on it that left was given up: after the mutex was handed to it and
before it noticed, or before it tried to get the mutex. Otherwise it has none. -/
theorem entry_iff (actions : List Action) (key : LockKey)
    (hcalm : ∀ c ∈ (run {} actions).claims, c.key = key → c.stage.isLive = true) :
    ((run {} actions).mutexOf? key).isSome = true ↔ (∃ c ∈ (run {} actions).claims, c.key = key) ∨
      ∃ c, lastOn key (leavers {} actions) = some c ∧ (c.stage = .requested ∨ c.stage = .granted) := by
  have hend := accounted_empty.run actions
  by_cases hclaimed : (run {} actions).IsClaimed key
  · obtain ⟨c, hc, hkey⟩ := hclaimed
    refine iff_of_true ?_ (.inl ⟨c, hc, hkey⟩)
    rw [← hkey, hend.sound.mapped c hc (hcalm c hc hkey), Option.isSome_some]
  · exact (hend.outlived key hclaimed).trans (or_iff_right hclaimed).symm

/-- The first holder gives its mutex back and looks whether the entry can go, and then the second, to
which the mutex was handed, gives up before it notices. -/
def givenUp (key : LockKey) : List Action :=
  [.request key, .poll 0, .request key, .poll 1, .release 0, .tidy 0, .cancel 1]

/-- The entry of a record that was given up is left, though nobody has a claim on it any more. -/
theorem entry_iff_givenUp : (run {} (givenUp ⟨.user, 7⟩)).claims = [] ∧
    ((run {} (givenUp ⟨.user, 7⟩)).mutexOf? ⟨.user, 7⟩).isSome = true :=
  ⟨by decide, (entry_iff (givenUp ⟨.user, 7⟩) ⟨.user, 7⟩ (by decide)).mpr
    (.inr ⟨⟨1, ⟨.user, 7⟩, 0, .granted⟩, by decide, .inr rfl⟩)⟩

/-- It is not so that the table has entries only for records on which there are claims, even where no
lock is being given back. -/
theorem entry_outlives_claims : ¬ ∀ (actions : List Action) (key : LockKey),
    (∀ c ∈ (run {} actions).claims, c.stage.isLive = true) →
    (((run {} actions).mutexOf? key).isSome = true ↔ ∃ c ∈ (run {} actions).claims, c.key = key) := by
  intro hlive
  obtain ⟨c, hc, -⟩ := (hlive (givenUp ⟨.user, 7⟩) ⟨.user, 7⟩ (by decide)).mp (by decide)
  have hnone : (run {} (givenUp ⟨.user, 7⟩)).claims = [] := by decide
  rw [hnone] at hc
  cases hc

end Companion.LockTable
