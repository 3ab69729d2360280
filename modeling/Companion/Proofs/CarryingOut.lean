import Companion.Proofs.Acceptance
import Companion.Proofs.Turns
import Companion.Proofs.Writing

/-!
What carrying out a reply does. The facts of its updates go into the record one after the other, and
nothing else of the record changes. Each of its reminders is scheduled once. A directive without an
object does neither, and every directive is counted, as carried out or as dropped. All of this goes by
the text: it does not matter in which order the two kinds are processed.
-/

namespace Companion

open Number Text Time Json

/-! ### What directives say -/

/-- A value as it is remembered: a text as it is, a truth value or an integer as printed, and anything
else in JSON. -/
def remembered : Value → String
  | .string s => s
  | .bool b => toString b
  | .number (.whole i) => toString i
  | v => v.render

/-- The facts of an object are its members that are not null. -/
theorem factsOf_eq (members : List (String × Value)) : factsOf members =
    (members.filter fun m => !m.2 matches .null).map fun m => (m.1, remembered m.2) := by
  induction members with
  | nil => rfl
  | cons m members ih =>
    obtain ⟨name, v⟩ := m
    cases v with
    | null => exact ih
    | bool b => cases b <;> exact congrArg (List.cons _) ih
    | string s => exact congrArg (List.cons _) ih
    | array items => exact congrArg (List.cons _) ih
    | object inner => exact congrArg (List.cons _) ih
    | number n =>
      cases n with
      | real x => exact congrArg (List.cons _) ih
      | whole i => exact congrArg₂ List.cons (congrArg (Prod.mk name) (ofList_writeInt i)) ih

theorem getD_filter {α : Type} (p : α → Bool) (o : Option α) (a : α) :
    (o.filter p).getD a = match o with
      | some x => if p x then x else a
      | none => a := by
  cases o with
  | none => rfl
  | some x =>
    rw [Option.filter_some]
    exact apply_ite (Option.getD · a) _ _ _

namespace Tagged

def object? (t : Tagged) : Option (List (String × Value)) :=
  match parse t.payload with
  | .ok (.object members) => some members
  | _ => none

/-- The facts that a directive tells: the members of its object that are not null, if it is an
update. -/
def told (t : Tagged) : List (String × String) :=
  match t.kind, t.object? with
  | .update, some members =>
    (members.filter fun m => !m.2 matches .null).map fun m => (m.1, remembered m.2)
  | _, _ => []

/-- The reminder that a directive asks for, if it is one. It waits for the minutes that its object says
in a number or a text, if they are a positive number, else for the default, and never for more than the
greatest number. It says the text of its object without the blanks around it, if that leaves any. -/
def asked? (settings : DirectiveSettings) (t : Tagged) : Option Reminder :=
  match t.kind, t.object? with
  | .remind, some members =>
    let said : Option Double := match valueOf? "minutes" members with
      | some (.number n) => some n.toDouble
      | some (.string s) => Double.read? (trim s.toList)
      | _ => none
    let minutes : Double := match said with
      | some m => if m.isFinite && m.isPositive then m else .ofNat settings.defaultMinutes.toNat
      | none => .ofNat settings.defaultMinutes.toNat
    let text : String := match valueOf? "text" members with
      | some (.string s) => trimmed s
      | _ => ""
    some ⟨minutes.min (.ofNat settings.maxMinutes.toNat),
      if text = "" then settings.placeholder else text⟩
  | _, _ => none

theorem told_eq (t : Tagged) : t.told = match t.kind with
    | .update => (t.object?.map factsOf).getD []
    | .remind => [] := by
  rw [told]
  cases t.kind with
  | remind => rfl
  | update =>
    cases t.object? with
    | none => rfl
    | some members => exact (factsOf_eq members).symm

theorem asked?_eq (settings : DirectiveSettings) (t : Tagged) : t.asked? settings = match t.kind with
    | .update => none
    | .remind => t.object?.map fun members =>
      ⟨minutesOf settings members, reminderText settings members⟩ := by
  rw [asked?]
  cases t.kind with
  | update => rfl
  | remind =>
    cases t.object? with
    | none => rfl
    | some members =>
      dsimp only [Option.map_some]
      congr 2
      · rw [minutesOf, requestedMinutes?, getD_filter]
        cases valueOf? "minutes" members with
        | none => rfl
        | some v =>
          cases v with
          | string s =>
            dsimp only
            cases Double.read? (trim s.toList) <;> rfl
          | _ => rfl
      · rw [reminderText]
        cases valueOf? "text" members with
        | none => rfl
        | some v => cases v <;> rfl

def directive? (settings : DirectiveSettings) (t : Tagged) : Option Directive :=
  match t.kind with
  | .update => t.object?.map fun members => .update (factsOf members)
  | .remind => (t.asked? settings).map .remind

end Tagged

theorem toOption_map {ε α β : Type} (f : α → β) (x : Except ε α) :
    (x.map f).toOption = x.toOption.map f := by
  cases x <;> rfl

theorem parsePayload_toOption (t : Tagged) : (parsePayload t.payload).toOption = t.object? := by
  rw [parsePayload, Tagged.object?]
  split
  · next members hparse => rw [hparse]; rfl
  · next v hnot hparse =>
    rw [hparse]
    cases v with
    | object members => exact absurd rfl (hnot members)
    | _ => rfl
  · next f hparse => rw [hparse]; rfl

/-- What a directive is read as says what the directive says. -/
theorem Tagged.read_toOption (settings : DirectiveSettings) (t : Tagged) :
    (t.read settings).toOption = t.directive? settings := by
  have herror : ∀ {ε ε' α : Type} (f : ε → ε') (x : Except ε α),
      (x.mapError f).toOption = x.toOption := by
    intro ε ε' α f x
    cases x <;> rfl
  rw [Tagged.read, herror, directive?, asked?_eq]
  cases t.kind with
  | update =>
    simp only [toOption_map, parseUpdate, parsePayload_toOption, Option.map_map]
    rfl
  | remind => simp only [toOption_map, parseReminder, parsePayload_toOption]

def factsIn (directives : List Directive) : List (String × String) :=
  directives.flatMap fun
    | .update facts => facts
    | .remind _ => []

def remindersIn (directives : List Directive) : List Reminder :=
  directives.filterMap fun
    | .update _ => none
    | .remind reminder => some reminder

/-- The directives of a text that are carried out: those that have an object for their payload. -/
def accepted (text : List Char) : List Tagged := (scan text).filter fun t => t.object?.isSome

theorem successes_map_eq {ε α β : Type} (f : α → Except ε β) (xs : List α) :
    successes (xs.map f) = xs.filterMap fun x => (f x).toOption := by
  rw [successes, List.filterMap_map]
  rfl

section InOrder

variable {β : Type} {f : Tagged → List β}

/-- Leaving out what gives nothing leaves out nothing of what is given. -/
theorem flatMap_filter_of_nil {α : Type} {f : α → List β} {p : α → Bool}
    (h : ∀ x, p x = false → f x = []) (xs : List α) : (xs.filter p).flatMap f = xs.flatMap f := by
  induction xs with
  | nil => rfl
  | cons x xs ih =>
    cases hp : p x with
    | true => rw [List.filter_cons_of_pos hp, List.flatMap_cons, List.flatMap_cons, ih]
    | false =>
      rw [List.filter_cons_of_neg (by rw [hp]; exact Bool.false_ne_true), ih, List.flatMap_cons,
        h x hp, List.nil_append]

/-- What only directives of one kind give comes in the order of the text, whatever the order of
processing. -/
theorem flatMap_inOrder (kind : DirectiveKind) (h : ∀ t, t.kind ≠ kind → f t = [])
    (order : ScanOrder) (found : List Tagged) : (inOrder order found).flatMap f = found.flatMap f := by
  have hkept : (found.filter (·.kind == kind)).flatMap f = found.flatMap f :=
    flatMap_filter_of_nil (fun t ht => h t (by simpa using ht)) found
  have hnone : ∀ other, other ≠ kind → (found.filter (·.kind == other)).flatMap f = [] := by
    intro other hother
    apply List.flatMap_eq_nil_iff.mpr
    intro t ht
    have hkind : t.kind = other := by simpa using (List.mem_filter.mp ht).2
    exact h t (hkind ▸ hother)
  cases order with
  | sourceOrder => rfl
  | kindGrouped =>
    rw [inOrder, List.flatMap_append]
    cases kind with
    | update => rw [hkept, hnone .remind (by decide), List.append_nil]
    | remind => rw [hkept, hnone .update (by decide), List.nil_append]

end InOrder

section Parse

variable (settings : DirectiveSettings) (generated : String)

theorem directives_parse : (Reply.parse settings generated).directives =
    (inOrder settings.scanOrder (scan generated.toList)).filterMap (·.directive? settings) := by
  simp only [Reply.parse, successes_map_eq, Tagged.read_toOption]

/-- The facts of a reply are those that its updates tell, in the order of the text. -/
theorem factsIn_parse : factsIn (Reply.parse settings generated).directives =
    (scan generated.toList).flatMap Tagged.told := by
  have hread : ∀ ts : List Tagged,
      factsIn (ts.filterMap (·.directive? settings)) = ts.flatMap Tagged.told := by
    intro ts
    induction ts with
    | nil => rfl
    | cons t ts ih =>
      rw [List.filterMap_cons, List.flatMap_cons, ← ih, Tagged.told_eq, Tagged.directive?,
        Tagged.asked?_eq]
      cases t.kind <;> cases t.object? <;> rfl
  rw [directives_parse, hread]
  apply flatMap_inOrder .update
  intro t ht
  cases hkind : t.kind with
  | update => exact absurd hkind ht
  | remind => rw [Tagged.told_eq, hkind]

/-- The reminders of a reply are those that it asks for, in the order of the text. -/
theorem remindersIn_parse : remindersIn (Reply.parse settings generated).directives =
    (scan generated.toList).filterMap (·.asked? settings) := by
  have hread : ∀ ts : List Tagged,
      remindersIn (ts.filterMap (·.directive? settings)) =
        ts.flatMap fun t => (t.asked? settings).toList := by
    intro ts
    induction ts with
    | nil => rfl
    | cons t ts ih =>
      rw [List.filterMap_cons, List.flatMap_cons, ← ih, Tagged.directive?, Tagged.asked?_eq]
      cases t.kind <;> cases t.object? <;> rfl
  rw [directives_parse, hread, List.filterMap_eq_flatMap_toList]
  apply flatMap_inOrder .remind
  intro t ht
  cases hkind : t.kind with
  | update => rw [Tagged.asked?_eq, hkind]; rfl
  | remind => exact absurd hkind ht

end Parse

namespace Facts

theorem get?_mergeOne (facts : Facts) (name value key : String) :
    (facts.mergeOne name value).1.get? key = if name = key then some value else facts.get? key := by
  unfold mergeOne
  split
  · next hsame =>
    by_cases hkey : name = key
    · subst hkey
      rw [if_pos rfl, hsame]
    · rw [if_neg hkey]
  · exact Table.get?_insert facts key name value

theorem merge_append (facts : Facts) (first later : List (String × String)) :
    (facts.merge (first ++ later)).1 = ((facts.merge first).1.merge later).1 := by
  induction first generalizing facts with
  | nil => rfl
  | cons update first ih => exact ih (facts.mergeOne update.1 update.2).1

end Facts

/-- What is learned from directives goes into the facts and nowhere else. -/
theorem learned_eq (directives : List Directive) (r : UserRecord) :
    learned directives r = { r with facts := (r.facts.merge (factsIn directives)).1 } := by
  induction directives generalizing r with
  | nil => rfl
  | cons directive directives ih =>
    cases directive with
    | update facts =>
      have hfacts : factsIn (.update facts :: directives) = facts ++ factsIn directives := rfl
      rw [hfacts, Facts.merge_append]
      exact ih (r.mergeFacts facts).1
    | remind reminder => exact ih r

/-! ### Scheduling reminders -/

/-- An action waits as long as the timer of a schedule lets it for a reminder that was added to the
schedule, and sends its text to a chat. -/
structure ScheduledReminder.Awaits (settings : DirectiveSettings) (chat : Int64) (clock : Instant)
    (before : Schedule Delivery) (s : ScheduledReminder) (p : Pending Delivery) : Prop where
  id : p.id = s.receipt.id
  delay : s.receipt.delay = s.reminder.delay
  due : s.receipt.due = clock.later s.reminder.delay
  waits : p.due = before.now + before.timer s.reminder.delay
  action : p.action = ⟨chat, settings.reminderStart ++ s.reminder.text⟩

/-- The one change of a schedule is that each of some reminders waits in it now, once and in order. -/
def Schedule.Holds (settings : DirectiveSettings) (chat : Int64) (clock : Instant)
    (before : Schedule Delivery) (scheduled : List ScheduledReminder) (after : Schedule Delivery) :
    Prop :=
  ∃ made, after = { before with
      next := before.next + .ofNat made.length, pending := before.pending ++ made } ∧
    List.Forall₂ (fun s p => s.Awaits settings chat clock before p) scheduled made

section Effects

variable {settings : DirectiveSettings} {chat : Int64} {now : Instant}

theorem Schedule.Holds.nil {schedule : Schedule Delivery} :
    schedule.Holds settings chat now [] schedule := by
  refine ⟨[], ?_, .nil⟩
  simp

theorem Schedule.Holds.cons {schedule after : Schedule Delivery} {reminder : Reminder}
    {scheduled : List ScheduledReminder}
    (h : (schedule.add now reminder.delay ⟨chat, settings.reminderStart ++ reminder.text⟩).2.Holds
      settings chat now scheduled after) :
    schedule.Holds settings chat now (⟨reminder, (schedule.add now reminder.delay
      (⟨chat, settings.reminderStart ++ reminder.text⟩ : Delivery)).1⟩ :: scheduled) after := by
  obtain ⟨made, rfl, hmade⟩ := h
  refine ⟨⟨schedule.next, schedule.now + schedule.timer reminder.delay,
    ⟨chat, settings.reminderStart ++ reminder.text⟩⟩ :: made, ?_, .cons ⟨rfl, rfl, rfl, rfl, rfl⟩
      (hmade.imp fun _ _ h => ⟨h.id, h.delay, h.due, h.waits, h.action⟩)⟩
  simp only [add, List.length_cons, UInt64.ofNat_add, List.append_assoc, List.singleton_append]
  congr 1
  rw [UInt64.add_assoc, UInt64.add_comm 1]
  rfl

def countOf (directives : List Directive) : Counter → Nat
  | .directivesApplied => directives.length
  | .remindersScheduled => (remindersIn directives).length
  | _ => 0

theorem countOf_cons (directive : Directive) (directives : List Directive) (k : Counter) :
    countOf (directive :: directives) k = countOf [directive] k + countOf directives k := by
  cases k <;> cases directive <;> simp [countOf, remindersIn, Nat.add_comm]

theorem get_carryOut (e : Effects) (directive : Directive) (k : Counter) :
    (e.carryOut settings chat now directive).counters.get k =
      e.counters.get k + .ofNat (countOf [directive] k) := by
  cases directive <;> cases k <;>
    simp [Effects.carryOut, Counters.bump, Counters.get_add, countOf, remindersIn]

/-- Every directive that is carried out is counted, and a reminder is counted as one as well. -/
theorem foldl_carryOut_counters (directives : List Directive) (e : Effects) (k : Counter) :
    (directives.foldl (Effects.carryOut settings chat now) e).counters.get k =
      e.counters.get k + .ofNat (countOf directives k) := by
  induction directives generalizing e with
  | nil => cases k <;> simp [countOf, remindersIn]
  | cons directive directives ih =>
    rw [List.foldl_cons, ih, get_carryOut, countOf_cons directive directives, UInt64.ofNat_add,
      UInt64.add_assoc]

end Effects

/-! ### Applying a reply -/

section Accepted

variable (settings : DirectiveSettings) (text : List Char)

theorem flatMap_told : (accepted text).flatMap Tagged.told = (scan text).flatMap Tagged.told := by
  apply flatMap_filter_of_nil
  intro t ht
  have hnone : t.object? = none := by simpa using ht
  rw [Tagged.told_eq, hnone]
  cases t.kind <;> rfl

end Accepted

end Companion
