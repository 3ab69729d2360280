import Companion.Prompt.Context
import Mathlib.Data.List.Basic
import Mathlib.Data.List.Find

/-!
Rendering a template is substituting all names at once. A name stands in braces at some places of a
template, and what each place becomes is told by the template alone: the value where a name stands,
nothing within its braces, and the character itself elsewhere. Names without braces never overlap, so
one pass from left to right comes to the same, and a template may be cut at the ends of a name.
-/

namespace Companion.Template

/-! ### Names in braces -/

def braced (name : String) : List Char := '\x7b' :: name.toList ++ ['\x7d']

/-- No name has a brace in it. -/
def Values.Plain (values : Values) : Prop :=
  ∀ e ∈ values, '\x7b' ∉ e.1.toList ∧ '\x7d' ∉ e.1.toList

instance (values : Values) : Decidable values.Plain :=
  inferInstanceAs (Decidable (∀ e ∈ values, '\x7b' ∉ e.1.toList ∧ '\x7d' ∉ e.1.toList))

/-- The first of the values whose name stands in braces at a place. -/
def standing? (values : Values) (cs : List Char) (i : Nat) : Option (String × String) :=
  values.find? fun e => braced e.1 <+: cs.drop i

/-- A name that stands in braces further in front reaches over a place. -/
def Covered (values : Values) (cs : List Char) (i : Nat) : Prop :=
  ∃ j < i, ∃ e ∈ standing? values cs j, i < j + (braced e.1).length

instance (values : Values) (cs : List Char) (i : Nat) : Decidable (Covered values cs i) :=
  inferInstanceAs (Decidable (∃ j < i, ∃ e ∈ standing? values cs j, i < j + (braced e.1).length))

def renderedAt (values : Values) (cs : List Char) (i : Nat) : List Char :=
  match standing? values cs i with
  | some (_, value) => value.toList
  | none => if Covered values cs i then [] else cs[i]?.toList

/-- What all places become, each for itself. -/
def substituted (values : Values) (cs : List Char) : List Char :=
  (List.range cs.length).flatMap (renderedAt values cs)

section Names

variable {values : Values} {name : String} {value : String} {cs : List Char}

theorem length_braced (name : String) : (braced name).length = name.toList.length + 2 := by
  simp [braced]

/-- A name in braces ends within a text, unless the braces of another name begin in between. -/
theorem braced_append_iff (hname : '\x7b' ∉ name.toList) {a : List Char} (ha : a ≠ [])
    (b : List Char) : braced name <+: a ++ '\x7b' :: b ↔ braced name <+: a := by
  constructor
  · intro h
    rcases List.prefix_or_prefix_of_prefix h (List.prefix_append a _) with hshort | ⟨t, ht⟩
    · exact hshort
    cases t with
    | nil => exact ⟨[], by simpa using ht.symm⟩
    | cons d t =>
      -- the name would go on with the brace behind `a`
      rw [← ht, List.prefix_append_right_inj, List.cons_prefix_cons] at h
      obtain ⟨rfl, -⟩ := h
      obtain ⟨c, a, rfl⟩ := List.exists_cons_of_ne_nil ha
      have hinner : name.toList ++ ['\x7d'] = a ++ '\x7b' :: t := (List.cons.inj ht.symm).2
      have hmem : '\x7b' ∈ name.toList ++ ['\x7d'] := by simp [hinner]
      simp [hname] at hmem
  · exact fun h => h.trans (List.prefix_append a _)

/-- What stands before the first closing brace, if a name without braces is closed there. -/
theorem takeWhile_name (hname : '\x7d' ∉ name.toList) (b : List Char) :
    (name.toList ++ ['\x7d'] ++ b).takeWhile (· != '\x7d') = name.toList := by
  have hkept : ∀ c ∈ name.toList, (c != '\x7d') = true := fun c hc =>
    bne_iff_ne.mpr fun heq => hname (heq ▸ hc)
  rw [List.append_assoc, List.takeWhile_append_of_pos hkept]
  simp

/-- Which name without braces stands in braces at the start of a text is told by the first closing
brace. -/
theorem braced_prefix_iff (hname : '\x7d' ∉ name.toList) :
    braced name <+: '\x7b' :: cs ↔ cs.takeWhile (· != '\x7d') = name.toList ∧
      name.toList.length ≠ cs.length := by
  rw [braced, List.cons_append, List.cons_prefix_cons]
  constructor
  · rintro ⟨-, rest, rfl⟩
    exact ⟨takeWhile_name hname rest, by simp⟩
  · rintro ⟨htake, hlength⟩
    refine ⟨rfl, ?_⟩
    have hsplit := List.takeWhile_append_dropWhile (p := (· != '\x7d')) (l := cs)
    rw [htake] at hsplit
    cases hrest : cs.dropWhile (· != '\x7d') with
    | nil =>
      rw [hrest, List.append_nil] at hsplit
      exact absurd (congrArg List.length hsplit) hlength
    | cons c rest =>
      have hc : c = '\x7d' := by
        have hhead := List.head?_dropWhile_not (· != '\x7d') cs
        rw [hrest] at hhead
        simpa using hhead
      subst hc
      exact ⟨rest, by rw [← hsplit, hrest]; simp⟩

/-- Where a name without braces stands in braces, no other one does. -/
theorem braced_prefix_braced {other : String} (hname : '\x7d' ∉ name.toList)
    (hother : '\x7d' ∉ other.toList) (b : List Char) :
    braced other <+: braced name ++ b ↔ other = name := by
  have hshape : braced name ++ b = '\x7b' :: (name.toList ++ ['\x7d'] ++ b) := rfl
  rw [hshape, braced_prefix_iff hother, takeWhile_name hname, String.toList_inj, eq_comm (a := name)]
  refine and_iff_left_of_imp ?_
  rintro rfl
  simp

/-- The first entry with a name has the value that the name has. -/
theorem find?_name (values : Values) (name : String) :
    (values.find? fun e => e.1 = name) = (values.lookup name).map (name, ·) := by
  induction values with
  | nil => rfl
  | cons e values ih =>
    obtain ⟨k, v⟩ := e
    by_cases hk : k = name
    · subst hk
      simp
    · have hk' : (name == k) = false := beq_false_of_ne (Ne.symm hk)
      simp only [List.lookup_cons, hk', ih, List.find?_cons, hk, decide_false]

theorem mem_of_lookup (h : values.lookup name = some value) : (name, value) ∈ values := by
  obtain ⟨front, rest, rfl, -⟩ := List.lookup_eq_some_iff.mp h
  simp

/-- Where a name without braces stands in braces, its first entry counts. -/
theorem standing?_of_braced (hplain : values.Plain) (hname : '\x7d' ∉ name.toList) {i : Nat}
    (h : braced name <+: cs.drop i) : standing? values cs i = (values.lookup name).map (name, ·) := by
  obtain ⟨rest, hrest⟩ := h
  rw [← find?_name, standing?, ← hrest]
  exact List.find?_congr fun e he => decide_eq_decide.mpr <|
    braced_prefix_braced hname (hplain e he).2 rest

/-- A name stands at a place with a value exactly if it is there in braces and has that value. -/
theorem standing?_eq_some_iff (hplain : values.Plain) {i : Nat} :
    standing? values cs i = some (name, value) ↔
      braced name <+: cs.drop i ∧ values.lookup name = some value := by
  constructor
  · intro h
    have hmem : (name, value) ∈ values := List.mem_of_find?_eq_some h
    have hbraced : braced name <+: cs.drop i := by simpa using List.find?_some h
    refine ⟨hbraced, ?_⟩
    rw [standing?_of_braced hplain (hplain _ hmem).2 hbraced] at h
    simpa using h
  · rintro ⟨hbraced, hvalue⟩
    have hmem : (name, value) ∈ values := mem_of_lookup hvalue
    rw [standing?_of_braced hplain (hplain _ hmem).2 hbraced, hvalue, Option.map_some]

/-- What rendering finds behind an opening brace is the name that stands there in braces. -/
theorem named?_eq (hplain : values.Plain) (cs : List Char) :
    named? values cs = (standing? values ('\x7b' :: cs) 0).map fun e =>
      (e.2.toList, e.1.toList.length) := by
  let start := cs.takeWhile (· != '\x7d')
  by_cases hend : start.length = cs.length
  · have hnone : standing? values ('\x7b' :: cs) 0 = none := by
      refine List.find?_eq_none.mpr fun e he hstands => ?_
      obtain ⟨htake, hlength⟩ :=
        (braced_prefix_iff (hplain e he).2).mp (of_decide_eq_true hstands)
      exact hlength (htake ▸ hend)
    rw [hnone, Option.map_none]
    exact if_pos hend
  · have hname : '\x7d' ∉ (String.ofList start).toList := by
      rw [String.toList_ofList]
      intro hmem
      simpa using List.all_eq_true.mp List.all_takeWhile _ hmem
    have hbraced : braced (String.ofList start) <+: ('\x7b' :: cs).drop 0 := by
      rw [List.drop_zero, braced_prefix_iff hname, String.toList_ofList]
      exact ⟨rfl, hend⟩
    rw [standing?_of_braced hplain hname hbraced, Option.map_map]
    have hnamed : named? values cs = (values.lookup (String.ofList start)).map fun value =>
        (value.toList, start.length) := if_neg hend
    rw [hnamed]
    refine Option.map_congr fun value _ => ?_
    rw [Function.comp_apply, String.toList_ofList]

end Names

/-! ### Places -/

section Places

variable {values : Values} {a b cs : List Char}

theorem standing?_eq_some {e : String × String} {i : Nat} (h : standing? values cs i = some e) :
    e ∈ values ∧ braced e.1 <+: cs.drop i :=
  ⟨List.mem_of_find?_eq_some h, by simpa using List.find?_some h⟩

theorem standing?_behind (values : Values) (a b : List Char) (i : Nat) :
    standing? values (a ++ b) (a.length + i) = standing? values b i := by
  rw [standing?, standing?, List.drop_append, List.drop_of_length_le (by omega)]
  simp

/-- What stands in braces in a text stands there wholly. -/
theorem reach_le {e : String × String} {i : Nat} (h : standing? values cs i = some e) :
    i + (braced e.1).length ≤ cs.length := by
  have hlength := (standing?_eq_some h).2.length_le
  rw [List.length_drop, length_braced] at hlength
  rw [length_braced]
  omega

/-- A text and what follows it share no name in braces. -/
def Apart (values : Values) (a b : List Char) : Prop :=
  ∀ i < a.length, standing? values (a ++ b) i = standing? values a i

theorem covered_front (h : Apart values a b) {i : Nat} (hi : i < a.length) :
    Covered values (a ++ b) i ↔ Covered values a i := by
  unfold Covered
  refine exists_congr fun j => and_congr_right fun hj => ?_
  rw [h j (hj.trans hi)]

theorem covered_behind (h : Apart values a b) (i : Nat) :
    Covered values (a ++ b) (a.length + i) ↔ Covered values b i := by
  constructor
  · rintro ⟨j, hj, e, he, hover⟩
    by_cases hfront : j < a.length
    · rw [h j hfront] at he
      have hend := reach_le he
      omega
    · obtain ⟨k, rfl⟩ := Nat.exists_eq_add_of_le (Nat.le_of_not_lt hfront)
      rw [standing?_behind] at he
      exact ⟨k, by omega, e, he, by omega⟩
  · rintro ⟨j, hj, e, he, hover⟩
    refine ⟨a.length + j, by omega, e, ?_, by omega⟩
    rw [standing?_behind]
    exact he

/-- Two texts that share no name in braces are rendered each for itself. -/
theorem substituted_append (h : Apart values a b) :
    substituted values (a ++ b) = substituted values a ++ substituted values b := by
  have hfront : ∀ i ∈ List.range a.length, renderedAt values (a ++ b) i = renderedAt values a i := by
    intro i hi
    have hlt := List.mem_range.mp hi
    simp only [renderedAt, h i hlt, covered_front h hlt, List.getElem?_append_left hlt]
  have hbehind : ∀ i ∈ List.range b.length,
      renderedAt values (a ++ b) (a.length + i) = renderedAt values b i := by
    intro i _
    simp only [renderedAt, standing?_behind, covered_behind h,
      List.getElem?_append_right (Nat.le_add_right _ _), Nat.add_sub_cancel_left]
  rw [substituted, List.length_append, List.range_add, List.flatMap_append, List.flatMap_map,
    List.flatMap_congr hfront, List.flatMap_congr hbehind]
  rfl

/-- A place where nothing stands is apart from what follows it. -/
theorem apart_single {c : Char} (h : standing? values (c :: b) 0 = none) : Apart values [c] b := by
  intro i hi
  obtain rfl : i = 0 := by simpa using hi
  rw [List.singleton_append, h, eq_comm, Option.eq_none_iff_forall_ne_some]
  intro e he
  have hend := reach_le he
  rw [length_braced, List.length_singleton] at hend
  omega

/-- No name without braces reaches over an opening brace. -/
theorem apart_brace (hplain : values.Plain) (a b : List Char) : Apart values a ('\x7b' :: b) := by
  intro i hi
  have hrest : a.drop i ≠ [] := by simpa using hi
  refine List.find?_congr fun e he => ?_
  rw [List.drop_append_of_le_length hi.le, decide_eq_decide]
  exact braced_append_iff (hplain e he).1 hrest b

/-- Nothing stands in braces within the braces of a name. -/
theorem standing?_inside (values : Values) {name : String} (hname : '\x7b' ∉ name.toList)
    (b : List Char) {i : Nat} (hi : i < name.toList.length + 1) :
    standing? values (braced name ++ b) (i + 1) = none := by
  refine List.find?_eq_none.mpr fun e _ hstands => ?_
  obtain ⟨rest, hrest⟩ := of_decide_eq_true hstands
  have hplace : (name.toList ++ ['\x7d'] ++ b)[i]? = some '\x7b' := by
    have hhead := congrArg List.head? hrest
    rw [List.head?_drop] at hhead
    exact hhead.symm
  rw [List.getElem?_append_left (by simpa using hi)] at hplace
  simpa [hname] using List.mem_of_getElem? hplace

/-- A name in braces is apart from what follows it. -/
theorem apart_braced (hplain : values.Plain) {name : String} (hopen : '\x7b' ∉ name.toList)
    (hclose : '\x7d' ∉ name.toList) (b : List Char) : Apart values (braced name) b := by
  intro i hi
  cases i with
  | zero =>
    refine List.find?_congr fun e he => decide_eq_decide.mpr ?_
    have hshort := braced_prefix_braced hclose (hplain e he).2 []
    rw [List.append_nil] at hshort
    exact (braced_prefix_braced hclose (hplain e he).2 b).trans hshort.symm
  | succ i =>
    have hinside : i < name.toList.length + 1 := by
      rw [length_braced] at hi
      omega
    have hwhole := standing?_inside values hopen [] hinside
    rw [List.append_nil] at hwhole
    rw [standing?_inside values hopen b hinside, hwhole]

end Places

/-! ### Rendering -/

section Rendering

variable {values : Values}

/-- The braces of a name become its value. -/
theorem substituted_braced (hplain : values.Plain) {name value : String}
    (hstands : standing? values (braced name) 0 = some (name, value)) :
    substituted values (braced name) = value.toList := by
  have hopen := (hplain _ (standing?_eq_some hstands).1).1
  have hfirst : renderedAt values (braced name) 0 = value.toList := by
    rw [renderedAt, hstands]
  have hinside : ∀ i ∈ List.range (name.toList.length + 1),
      renderedAt values (braced name) (i + 1) = [] := by
    intro i hi
    have hlt := List.mem_range.mp hi
    have hnone := standing?_inside values hopen [] hlt
    rw [List.append_nil] at hnone
    have hcovered : Covered values (braced name) (i + 1) := by
      refine ⟨0, Nat.succ_pos i, (name, value), hstands, ?_⟩
      have hlength := length_braced name
      dsimp only
      omega
    rw [renderedAt, hnone]
    exact if_pos hcovered
  rw [substituted, length_braced, List.range_succ_eq_map, List.flatMap_cons, List.flatMap_map, hfirst,
    List.flatMap_eq_nil_iff.mpr hinside, List.append_nil]

/-- A place where nothing stands keeps its character. -/
theorem substituted_cons {c : Char} {cs : List Char} (h : standing? values (c :: cs) 0 = none) :
    substituted values (c :: cs) = c :: substituted values cs := by
  have hnone : standing? values [c] 0 = none := (apart_single h 0 Nat.one_pos).symm.trans h
  have hcovered : ¬ Covered values [c] 0 := by
    rintro ⟨j, hj, -⟩
    exact absurd hj (Nat.not_lt_zero j)
  have hsingle : substituted values [c] = [c] := by
    rw [substituted, List.length_singleton, List.range_one, List.flatMap_singleton, renderedAt, hnone]
    exact if_neg hcovered
  rw [← List.singleton_append, substituted_append (apart_single h), hsingle, List.singleton_append]

/-- One pass from left to right renders every place as it is told for itself. -/
theorem fill_eq (hplain : values.Plain) (cs : List Char) : fill values cs = substituted values cs := by
  fun_induction fill values cs with
  | case1 => rfl
  | case2 cs value n hnamed ih =>
    rw [named?_eq hplain, Option.map_eq_some_iff] at hnamed
    obtain ⟨⟨name, value⟩, hstands, hvalue⟩ := hnamed
    obtain ⟨rfl, rfl⟩ := Prod.mk.inj hvalue
    obtain ⟨hmem, rest, hsplit⟩ := standing?_eq_some hstands
    rw [List.drop_zero] at hsplit
    have hapart := apart_braced hplain (hplain _ hmem).1 (hplain _ hmem).2 rest
    have hown : standing? values (braced name) 0 = some (name, value) := by
      rw [← hapart 0 (by simp [braced]), hsplit, hstands]
    have hrest : cs.drop (name.toList.length + 1) = rest := by
      have hcs : cs = name.toList ++ ['\x7d'] ++ rest := (List.cons.inj hsplit.symm).2
      rw [hcs, List.drop_left' (by simp)]
    rw [hrest] at ih ⊢
    rw [ih, ← hsplit, substituted_append hapart, substituted_braced hplain hown]
  | case3 cs hnamed ih =>
    rw [named?_eq hplain, Option.map_eq_none_iff] at hnamed
    rw [substituted_cons hnamed, ih]
  | case4 c cs hc ih =>
    have hnone : standing? values (c :: cs) 0 = none := by
      refine List.find?_eq_none.mpr fun e _ hstands => ?_
      obtain ⟨rest, hrest⟩ := of_decide_eq_true hstands
      exact hc (List.cons.inj hrest).1.symm
    rw [substituted_cons hnone, ih]

/-- A text in which no name stands in braces stays as it is. -/
theorem substituted_verbatim {cs : List Char} (h : ∀ e ∈ values, ¬ braced e.1 <:+: cs) :
    substituted values cs = cs := by
  induction cs with
  | nil => rfl
  | cons c cs ih =>
    have hnone : standing? values (c :: cs) 0 = none :=
      List.find?_eq_none.mpr fun e he hstands =>
        h e he (of_decide_eq_true hstands : braced e.1 <+: c :: cs).isInfix
    have hrest := ih fun e he hwithin => h e he (hwithin.trans (List.suffix_cons c cs).isInfix)
    rw [substituted_cons hnone, hrest]

/-- Rendering is simultaneous substitution. Each place of a template is rendered by what stands there:
a listed name in braces gives its first value, whatever is in it, the places within such braces give
nothing, and any other place gives its character. So a template may be cut in front of a name in
braces and behind it, and a text without any listed name in braces stays as it is. -/
theorem render_simultaneous (values : Values) (hplain : values.Plain) :
    (∀ template, render values template = String.ofList (substituted values template.toList)) ∧
    (∀ cs i name value, standing? values cs i = some (name, value) ↔
      braced name <+: cs.drop i ∧ values.lookup name = some value) ∧
    (∀ a b name value, values.lookup name = some value →
      render values (a ++ String.ofList (braced name) ++ b) =
        render values a ++ value ++ render values b) ∧
    ∀ text, (∀ e ∈ values, ¬ braced e.1 <:+: text.toList) → render values text = text := by
  have hrender : ∀ template, render values template =
      String.ofList (substituted values template.toList) := fun template => by
    rw [render, fill_eq hplain]
  refine ⟨hrender, fun cs i name value => standing?_eq_some_iff hplain, ?_, ?_⟩
  · intro a b name value hvalue
    have hmem : (name, value) ∈ values := mem_of_lookup hvalue
    obtain ⟨hopen, hclose⟩ := hplain _ hmem
    have hown : standing? values (braced name) 0 = some (name, value) :=
      (standing?_eq_some_iff hplain).mpr ⟨List.prefix_rfl, hvalue⟩
    have hfront : Apart values a.toList (braced name ++ b.toList) :=
      apart_brace hplain a.toList (name.toList ++ ['\x7d'] ++ b.toList)
    have hbehind := apart_braced hplain hopen hclose b.toList
    have hsplit : substituted values (a.toList ++ (braced name ++ b.toList)) =
        substituted values a.toList ++ (value.toList ++ substituted values b.toList) := by
      rw [substituted_append hfront, substituted_append hbehind, substituted_braced hplain hown]
    rw [hrender, hrender a, hrender b, String.toList_append, String.toList_append,
      String.toList_ofList, List.append_assoc, hsplit]
    simp only [String.ofList_append, String.ofList_toList, String.append_assoc]
  · intro text htext
    rw [hrender, substituted_verbatim htext, String.ofList_toList]

/-- Values of which one holds a name in braces and one has a name that was there before. -/
def crossedValues : Values := [("name", "\x7brole\x7d"), ("role", "friend"), ("name", "nobody")]

theorem render_simultaneous_crossed :
    crossedValues.Plain ∧
      render crossedValues ("\x7brole" ++ String.ofList (braced "name") ++ " \x7b\x7d") =
        "\x7brole\x7brole\x7d \x7b\x7d" := by
  have hplain : crossedValues.Plain := by decide
  obtain ⟨-, -, hjoin, hverbatim⟩ := render_simultaneous crossedValues hplain
  have hfront := hverbatim "\x7brole" (by decide)
  have hbehind := hverbatim " \x7b\x7d" (by decide)
  refine ⟨hplain, ?_⟩
  rw [hjoin "\x7brole" " \x7b\x7d" "name" "\x7brole\x7d" rfl, hfront, hbehind]
  rfl

end Rendering

end Companion.Template

namespace Companion.Templates

open Template

theorem plain_values (c : Context) : (values c).Plain := by
  intro e he
  have hname : e.1 ∈ ["persona", "display_name", "language", "facts", "history", "other_section",
      "message"] := by
    simpa [values] using List.mem_map_of_mem (f := Prod.fst) he
  revert hname
  generalize e.1 = name
  revert name
  decide

/-- Both texts of a prompt are their templates with everything about the context put in at once, so
nothing that was said or is known about anybody is taken for a name. -/
theorem render_substituted (t : Templates) (c : Context) :
    t.render c = (String.ofList (substituted (values c) t.system.toList),
      String.ofList (substituted (values c) t.user.toList)) := by
  rw [render, Template.render, Template.render, fill_eq (plain_values c), fill_eq (plain_values c)]

end Companion.Templates
