import Companion.Proofs.CarryingOut
import Companion.Proofs.ValueEnds
import Companion.Proofs.Writing
import Companion.Proofs.Yields
import Mathlib.Algebra.BigOperators.Group.Finset.Piecewise
import Mathlib.Algebra.Order.BigOperators.Group.Finset

/-!
What the number of changed facts tells. Facts are merged in one by one, and each that is not known yet
counts. So the number is a sum over names, of how often the value of a name changes on its way from the
old facts through all that is told for it. It is the number of names whose value is another one
afterwards just if no name changes twice: always if one update is told, because the names in an object
are distinct, but not if one update takes back what another told.
-/

namespace Companion

open Number Text Time Json

/-! ### Names in an object -/

namespace Json

/-- The members of an object that is read are listed by rising key. -/
theorem readWithin_sorted {depth : Nat} {s rest : List Symbol} {members : List (String × Value)}
    (h : readWithin depth s = .ok (.object members, rest)) : IsSorted members := by
  cases depth with
  | zero => cases h
  | succ depth =>
    rw [readWithin] at h
    -- what opens otherwise is no object
    have hother : ∀ {α : Type} {x : Except Fault α} {f : α → Value × List Symbol},
        (∀ a, (f a).1 ≠ .object members) → (do .ok (f (← x))) = .ok (.object members, rest) →
        IsSorted members := by
      intro α x f hf hx
      obtain ⟨a, _, ha⟩ := bind_eq_ok hx
      exact absurd (congrArg Prod.fst (Except.ok.inj ha)) (hf a)
    split at h
    · cases h
    · cases h
    · split at h
      · exact hother (by simp) h
      · exact hother (by simp) h
      · exact hother (by simp) h
      · exact hother (by simp) h
      · exact hother (by simp) h
      · split at h
        · cases h
        · exact hother (by simp) h
      · split at h
        · cases h
        · obtain ⟨⟨placed, r⟩, hread, h⟩ := bind_eq_ok h
          obtain ⟨hsame, -⟩ := Prod.mk.inj (Except.ok.inj h)
          obtain rfl := Value.object.inj hsame
          refine yields_members (P := IsSorted) (fun key placed hplaced => ?_) .nil _ _ _ hread
          intro t placed' rest' hmember
          obtain ⟨_, -, hmember⟩ := bind_eq_ok hmember
          obtain ⟨⟨v, _⟩, -, hmember⟩ := bind_eq_ok hmember
          obtain ⟨rfl, -⟩ := Prod.mk.inj (Except.ok.inj hmember)
          exact place_sorted hplaced
      · split at h
        · exact hother (by simp) h
        · cases h

theorem parse_sorted {cs : List Char} {members : List (String × Value)}
    (h : parse cs = .ok (.object members)) : IsSorted members := by
  obtain ⟨⟨v, rest⟩, hread, hend⟩ := bind_eq_ok h
  obtain ⟨-, -, hvalue⟩ := bind_eq_ok hend
  obtain rfl : v = .object members := Except.ok.inj hvalue
  exact readWithin_sorted hread

end Json

/-- A directive tells each name once. -/
theorem Tagged.nodup_told (t : Tagged) : (t.told.map Prod.fst).Nodup := by
  rw [told_eq]
  split
  · cases hobject : t.object? with
    | none => exact .nil
    | some members =>
      rw [object?] at hobject
      split at hobject
      · next hparse =>
        obtain rfl := Option.some.inj hobject
        exact (factsOf_sorted (parse_sorted hparse)).nodup_keys
      · cases hobject
  · exact .nil

/-! ### Changes of one value -/

/-- How often a value changes on its way through others. -/
def changes : Option String → List String → Nat
  | _, [] => 0
  | old, value :: rest => (if old = some value then 0 else 1) + changes (some value) rest

def latest : Option String → List String → Option String
  | old, [] => old
  | _, value :: rest => latest (some value) rest

theorem changes_eq_zero_iff {old : Option String} {values : List String} :
    changes old values = 0 ↔ ∀ value ∈ values, old = some value := by
  induction values generalizing old with
  | nil => simp [changes]
  | cons value rest ih =>
    by_cases hsame : old = some value
    · subst hsame
      simp [changes, ih]
    · simp [changes, hsame]

theorem latest_of_changes_eq_zero {old : Option String} {values : List String}
    (h : changes old values = 0) : latest old values = old := by
  induction values with
  | nil => rfl
  | cons value rest ih =>
    obtain rfl : old = some value := changes_eq_zero_iff.mp h value List.mem_cons_self
    exact ih (by simpa [changes] using h)

theorem isSome_latest (old : Option String) {values : List String} (h : values ≠ []) :
    (latest old values).isSome = true := by
  induction values generalizing old with
  | nil => exact absurd rfl h
  | cons value rest ih =>
    cases rest with
    | nil => rfl
    | cons next rest => exact ih (some value) (List.cons_ne_nil _ _)

/-- A value that changes once is another one at the end. -/
theorem latest_of_changes_eq_one {old : Option String} {values : List String}
    (h : changes old values = 1) : latest old values ≠ old := by
  induction values generalizing old with
  | nil => cases h
  | cons value rest ih =>
    by_cases hsame : old = some value
    · subst hsame
      exact ih (by simpa [changes] using h)
    · have hrest : changes (some value) rest = 0 := by simpa [changes, hsame] using h
      rw [latest, latest_of_changes_eq_zero hrest]
      exact Ne.symm hsame

/-- One if the value at the end is not the old one, and zero if it is. -/
def differs (old : Option String) (values : List String) : Nat :=
  if latest old values = old then 0 else 1

theorem differs_le_changes (old : Option String) (values : List String) :
    differs old values ≤ changes old values := by
  rw [differs]
  split
  · exact Nat.zero_le _
  · next hdiffers =>
    exact Nat.pos_of_ne_zero fun hzero => hdiffers (latest_of_changes_eq_zero hzero)

theorem differs_eq_changes_iff {old : Option String} {values : List String} :
    differs old values = changes old values ↔ changes old values ≤ 1 := by
  constructor
  · intro h
    rw [← h, differs]
    split <;> decide
  · intro h
    refine Nat.le_antisymm (differs_le_changes old values) ?_
    rcases Nat.le_one_iff_eq_zero_or_eq_one.mp h with hzero | hone
    · rw [hzero]
      exact Nat.zero_le _
    · rw [differs, if_neg (latest_of_changes_eq_one hone), hone]

theorem changes_le_length (old : Option String) (values : List String) :
    changes old values ≤ values.length := by
  induction values generalizing old with
  | nil => exact Nat.le_refl _
  | cons value rest ih =>
    have hrest := ih (some value)
    rw [changes, List.length_cons]
    split <;> omega

/-! ### Changes of facts -/

def valuesOf (name : String) (updates : List (String × String)) : List String :=
  updates.filterMap fun u => if u.1 = name then some u.2 else none

theorem valuesOf_cons (name : String) (u : String × String) (updates : List (String × String)) :
    valuesOf name (u :: updates) =
      if u.1 = name then u.2 :: valuesOf name updates else valuesOf name updates := by
  by_cases hname : u.1 = name <;> simp [valuesOf, hname]

theorem mem_valuesOf {name value : String} {updates : List (String × String)} :
    value ∈ valuesOf name updates ↔ (name, value) ∈ updates := by
  simp only [valuesOf, List.mem_filterMap, Option.ite_none_right_eq_some, Option.some.injEq]
  constructor
  · rintro ⟨u, hu, rfl, rfl⟩
    exact hu
  · exact fun hu => ⟨_, hu, rfl, rfl⟩

theorem valuesOf_eq_nil {name : String} {updates : List (String × String)}
    (h : name ∉ updates.map Prod.fst) : valuesOf name updates = [] := by
  rw [List.eq_nil_iff_forall_not_mem]
  exact fun value hvalue => h (List.mem_map.mpr ⟨_, mem_valuesOf.mp hvalue, rfl⟩)

theorem length_valuesOf_le {updates : List (String × String)} (h : (updates.map Prod.fst).Nodup)
    (name : String) : (valuesOf name updates).length ≤ 1 := by
  induction updates with
  | nil => exact Nat.zero_le _
  | cons u updates ih =>
    obtain ⟨hfirst, hrest⟩ := List.nodup_cons.mp h
    rw [valuesOf_cons]
    split
    · next hname =>
      rw [valuesOf_eq_nil (hname ▸ hfirst)]
      exact Nat.le_refl _
    · exact ih hrest

/-- The names whose facts are new or other ones. -/
def changedNames (before after : Facts) : Finset String :=
  (after.entries.map Prod.fst).toFinset.filter fun name => before.get? name ≠ after.get? name

namespace Facts

/-- Merging leaves the last value that is told for a name. -/
theorem get?_merge_latest (facts : Facts) (updates : List (String × String)) (name : String) :
    (facts.merge updates).1.get? name = latest (facts.get? name) (valuesOf name updates) := by
  induction updates generalizing facts with
  | nil => rfl
  | cons u updates ih =>
    refine (ih (facts.mergeOne u.1 u.2).1).trans ?_
    rw [get?_mergeOne, valuesOf_cons]
    split <;> rfl

theorem merge_count_append (facts : Facts) (first later : List (String × String)) :
    (facts.merge (first ++ later)).2 =
      (facts.merge first).2 + ((facts.merge first).1.merge later).2 := by
  induction first generalizing facts with
  | nil => exact (Nat.zero_add _).symm
  | cons u first ih =>
    have hrest := ih (facts.mergeOne u.1 u.2).1
    simp only [merge, List.cons_append] at hrest ⊢
    rw [hrest, Nat.add_assoc]

/-- Each fact that is merged in counts where it changes the value of its name. -/
theorem merge_count (facts : Facts) {updates : List (String × String)} {names : Finset String}
    (h : ∀ u ∈ updates, u.1 ∈ names) :
    (facts.merge updates).2 =
      ∑ name ∈ names, changes (facts.get? name) (valuesOf name updates) := by
  induction updates generalizing facts with
  | nil => simp [merge, valuesOf, changes]
  | cons u updates ih =>
    have hstep : ∀ name, changes (facts.get? name) (valuesOf name (u :: updates)) =
        (if u.1 = name then (facts.mergeOne u.1 u.2).2 else 0) +
          changes ((facts.mergeOne u.1 u.2).1.get? name) (valuesOf name updates) := by
      intro name
      rw [valuesOf_cons, get?_mergeOne]
      by_cases hname : u.1 = name
      · subst hname
        simp only [if_true, changes, mergeOne]
        split <;> rfl
      · simp only [hname, if_false, Nat.zero_add]
    have hrest := ih (facts.mergeOne u.1 u.2).1 fun v hv => h v (List.mem_cons_of_mem u hv)
    rw [Finset.sum_congr rfl fun name _ => hstep name, Finset.sum_add_distrib, ← hrest,
      Finset.sum_ite_eq, if_pos (h u List.mem_cons_self)]
    rfl

/-- The names that merging changes are among those told. -/
theorem changedNames_merge (facts : Facts) (updates : List (String × String)) :
    changedNames facts (facts.merge updates).1 = (updates.map Prod.fst).toFinset.filter fun name =>
      ¬ latest (facts.get? name) (valuesOf name updates) = facts.get? name := by
  ext name
  simp only [changedNames, Finset.mem_filter, List.mem_toFinset, get?_merge_latest, ne_eq,
    eq_comm (a := facts.get? name), and_congr_left_iff]
  intro hdiffers
  have htold : name ∈ updates.map Prod.fst := by
    by_contra hnot
    rw [valuesOf_eq_nil hnot] at hdiffers
    exact hdiffers rfl
  refine iff_of_true ?_ htold
  have hvalues : valuesOf name updates ≠ [] := by
    obtain ⟨u, hu, rfl⟩ := List.mem_map.mp htold
    exact List.ne_nil_of_mem (mem_valuesOf.mpr hu)
  obtain ⟨value, hvalue⟩ := Option.isSome_iff_exists.mp (isSome_latest (facts.get? name) hvalues)
  rw [← get?_merge_latest] at hvalue
  exact List.mem_map.mpr ⟨_, mem_of_valueOf? hvalue, rfl⟩

/-- How many names merging changes: one for each whose value at the end is not the old one. -/
theorem card_changedNames_merge (facts : Facts) (updates : List (String × String)) :
    (changedNames facts (facts.merge updates).1).card = ∑ name ∈ (updates.map Prod.fst).toFinset,
      differs (facts.get? name) (valuesOf name updates) := by
  rw [changedNames_merge, Finset.card_filter]
  refine Finset.sum_congr rfl fun name _ => ?_
  rw [differs, ite_not]

section Merge

variable (facts : Facts) (updates : List (String × String))

theorem merge_count_names : (facts.merge updates).2 =
    ∑ name ∈ (updates.map Prod.fst).toFinset,
      changes (facts.get? name) (valuesOf name updates) :=
  facts.merge_count fun _ hu => List.mem_toFinset.mpr (List.mem_map_of_mem hu)

theorem card_changedNames_le :
    (changedNames facts (facts.merge updates).1).card ≤ (facts.merge updates).2 := by
  rw [card_changedNames_merge, merge_count_names]
  exact Finset.sum_le_sum fun _ _ => differs_le_changes _ _

/-- As many names change as changes are counted just if no name changes twice. -/
theorem card_changedNames_eq_iff :
    (changedNames facts (facts.merge updates).1).card = (facts.merge updates).2 ↔
      ∀ name, changes (facts.get? name) (valuesOf name updates) ≤ 1 := by
  rw [card_changedNames_merge, merge_count_names,
    Finset.sum_eq_sum_iff_of_le fun _ _ => differs_le_changes _ _]
  simp only [differs_eq_changes_iff, List.mem_toFinset]
  refine ⟨fun h name => ?_, fun h name _ => h name⟩
  by_cases htold : name ∈ updates.map Prod.fst
  · exact h name htold
  · rw [valuesOf_eq_nil htold]
    exact Nat.zero_le 1

/-- Nothing is counted just if all that is merged in was known. -/
theorem merge_count_eq_zero_iff :
    (facts.merge updates).2 = 0 ↔ ∀ u ∈ updates, facts.get? u.1 = some u.2 := by
  simp only [merge_count_names, Finset.sum_eq_zero_iff, changes_eq_zero_iff, List.mem_toFinset]
  constructor
  · exact fun h u hu => h u.1 (List.mem_map_of_mem hu) u.2 (mem_valuesOf.mpr hu)
  · exact fun h name _ value hvalue => h (name, value) (mem_valuesOf.mp hvalue)

theorem merge_of_known {facts : Facts} {updates : List (String × String)}
    (h : ∀ u ∈ updates, facts.get? u.1 = some u.2) : (facts.merge updates).1 = facts := by
  apply Table.ext_get?
  intro name
  rw [get?_merge_latest]
  refine latest_of_changes_eq_zero (changes_eq_zero_iff.mpr fun value hvalue => ?_)
  exact h (name, value) (mem_valuesOf.mp hvalue)

end Merge

end Facts

/-! ### Changes that a reply makes -/

/-- What directives change is counted as merging all that they tell counts it. -/
theorem foldl_carryOut_factsChanged (settings : DirectiveSettings) (chat : Int64) (now : Instant)
    (directives : List Directive) (e : Effects) :
    (directives.foldl (Effects.carryOut settings chat now) e).factsChanged =
      e.factsChanged + (e.record.facts.merge (factsIn directives)).2 := by
  induction directives generalizing e with
  | nil => rfl
  | cons directive directives ih =>
    rw [List.foldl_cons, ih]
    cases directive with
    | update facts =>
      have hfacts : factsIn (.update facts :: directives) = facts ++ factsIn directives := rfl
      rw [hfacts, Facts.merge_count_append]
      exact Nat.add_assoc _ _ _
    | remind reminder => rfl

/-- Where a single update at most is accepted, each name is told once. -/
theorem nodup_names {good : List Tagged} (h : (good.filter (·.kind == .update)).length ≤ 1) :
    ((good.flatMap Tagged.told).map Prod.fst).Nodup := by
  have hreminder : ∀ t : Tagged, (t.kind == .update) = false → t.told = [] := by
    intro t ht
    cases hkind : t.kind with
    | update =>
      rw [hkind] at ht
      cases ht
    | remind => rw [Tagged.told_eq, hkind]
  rw [← flatMap_filter_of_nil hreminder]
  generalize good.filter (·.kind == .update) = updates at h ⊢
  cases updates with
  | nil => exact .nil
  | cons t rest =>
    obtain rfl : rest = [] := List.length_eq_zero_iff.mp (Nat.le_zero.mp (Nat.le_of_succ_le_succ h))
    rw [List.flatMap_cons, List.flatMap_nil, List.append_nil]
    exact t.nodup_told

/-- The number of changed facts is a sum over the names that the accepted directives tell a value for:
how often the value of the name changes on its way from the old fact through the values told, in the
order of the text. No more names than that have another value afterwards, and just as many if and only
if no name changes more than once, as when a single update is accepted. The number is zero just if all
that is told was known, and then the facts stay. -/
theorem factsChanged_sum (settings : DirectiveSettings) (generated : String) (chat : Int64)
    (now : Instant) (record : UserRecord) (schedule : Schedule Delivery) (counters : Counters) :
    let good := accepted generated.toList
    let told := good.flatMap Tagged.told
    let e := (applyReply settings generated chat now record schedule counters).effects
    let changed := changedNames record.facts e.record.facts
    e.factsChanged = (∑ name ∈ (told.map Prod.fst).toFinset,
      changes (record.facts.get? name) (valuesOf name told)) ∧
    changed.card ≤ e.factsChanged ∧
    (changed.card = e.factsChanged ↔
      ∀ name, changes (record.facts.get? name) (valuesOf name told) ≤ 1) ∧
    ((good.filter (·.kind == .update)).length ≤ 1 → changed.card = e.factsChanged) ∧
    (e.factsChanged = 0 ↔ ∀ u ∈ told, record.facts.get? u.1 = some u.2) ∧
    (e.factsChanged = 0 → e.record.facts = record.facts) := by
  dsimp only
  have hrecord : (applyReply settings generated chat now record schedule counters).effects.record.facts =
      (record.facts.merge ((accepted generated.toList).flatMap Tagged.told)).1 := by
    rw [applyReply, foldl_carryOut_record, learned_eq, factsIn_parse, flatMap_told]
  have hcount : (applyReply settings generated chat now record schedule counters).effects.factsChanged =
      (record.facts.merge ((accepted generated.toList).flatMap Tagged.told)).2 := by
    rw [applyReply, foldl_carryOut_factsChanged, factsIn_parse, flatMap_told]
    exact Nat.zero_add _
  rw [hrecord, hcount]
  refine ⟨record.facts.merge_count_names _, record.facts.card_changedNames_le _,
    record.facts.card_changedNames_eq_iff _, fun hsingle => ?_,
    record.facts.merge_count_eq_zero_iff _, fun hzero => ?_⟩
  · refine (record.facts.card_changedNames_eq_iff _).mpr fun name => ?_
    exact (changes_le_length _ _).trans (length_valuesOf_le (nodup_names hsingle) name)
  · exact Facts.merge_of_known ((record.facts.merge_count_eq_zero_iff _).mp hzero)

def knowsColor : UserRecord :=
  ⟨7, none, "en", .ofList [("color", "red")], [], ⟨epoch, 0, 0, isMoment_zero⟩⟩

def effectsOn (generated : String) : Effects :=
  (applyReply {} generated 1 ⟨epoch, 0, 0, isMoment_zero⟩ knowsColor {} {}).effects

/-- One update, of a fact that is known and of one that is not. -/
def learning : String := "[UPDATE: \x7b\"color\":\"blue\",\"city\":\"Oslo\"\x7d] Noted."

/-- An update that tells what is known. -/
def repeating : String := "[UPDATE: \x7b\"color\":\"red\"\x7d] As you said."

theorem factsChanged_sum_learning :
    ((accepted learning.toList).filter (·.kind == .update)).length ≤ 1 ∧
      (changedNames knowsColor.facts (effectsOn learning).record.facts).card = 2 ∧
      (effectsOn repeating).factsChanged = 0 ∧
      (effectsOn repeating).record.facts = knowsColor.facts := by
  have hsingle : ((accepted learning.toList).filter (·.kind == .update)).length ≤ 1 := by
    decide +kernel
  have hlearned : (effectsOn learning).factsChanged = 2 := by decide +kernel
  have hzero : (effectsOn repeating).factsChanged = 0 := by decide +kernel
  obtain ⟨-, -, -, hcounted, -, -⟩ :=
    factsChanged_sum {} learning 1 ⟨epoch, 0, 0, isMoment_zero⟩ knowsColor {} {}
  obtain ⟨-, -, -, -, -, hstays⟩ :=
    factsChanged_sum {} repeating 1 ⟨epoch, 0, 0, isMoment_zero⟩ knowsColor {} {}
  exact ⟨hsingle, (hcounted hsingle).trans hlearned, hzero, hstays hzero⟩

/-- An update and its withdrawal. -/
def wavering : String :=
  "[UPDATE: \x7b\"color\":\"blue\"\x7d] [UPDATE: \x7b\"color\":\"red\"\x7d]"

/-- Where one update takes back what another told, two changes are counted of facts that stay. -/
theorem wavering_counts :
    (effectsOn wavering).factsChanged = 2 ∧ (effectsOn wavering).record.facts = knowsColor.facts ∧
    ¬ ∀ (settings : DirectiveSettings) (generated : String) (chat : Int64) (now : Instant)
      (record : UserRecord) (schedule : Schedule Delivery) (counters : Counters),
      let e := (applyReply settings generated chat now record schedule counters).effects
      e.factsChanged = (changedNames record.facts e.record.facts).card := by
  have hcounted : (effectsOn wavering).factsChanged = 2 := by decide +kernel
  have hstays : (effectsOn wavering).record.facts = knowsColor.facts := by decide +kernel
  refine ⟨hcounted, hstays, fun hall => ?_⟩
  have hsame : (effectsOn wavering).factsChanged =
      (changedNames knowsColor.facts (effectsOn wavering).record.facts).card :=
    hall {} wavering 1 ⟨epoch, 0, 0, isMoment_zero⟩ knowsColor {} {}
  rw [hcounted, hstays, changedNames, Finset.filter_false_of_mem fun _ _ h => h rfl] at hsame
  cases hsame

end Companion
