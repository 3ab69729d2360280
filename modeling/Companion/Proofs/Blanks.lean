import Companion.Text.Blank

/-!
Blanks at the ends of a text. Trimming takes them away and nothing else, so a text that neither
begins nor ends with a blank comes back from between any blanks.
-/

namespace Companion.Text

/-- A digit is not blank. -/
theorem isBlank_of_isDigit {c : Char} (h : c.isDigit = true) : isBlank c = false := by
  rw [Char.isDigit, Bool.and_eq_true, decide_eq_true_eq, decide_eq_true_eq] at h
  have hlow : 48 ≤ c.toNat := h.1
  have hhigh : c.toNat ≤ 57 := h.2
  simp only [isBlank, Bool.or_eq_false_iff, Bool.and_eq_false_iff, decide_eq_false_iff_not,
    beq_eq_false_iff_ne]
  omega

def AllBlank (cs : List Char) : Prop := ∀ c ∈ cs, isBlank c = true

theorem trimStart_append {gap : List Char} (h : AllBlank gap) (cs : List Char) :
    trimStart (gap ++ cs) = trimStart cs := by
  induction gap with
  | nil => rfl
  | cons c gap ih =>
    have hc : isBlank c = true := h c List.mem_cons_self
    have hgap : AllBlank gap := fun d hd => h d (List.mem_cons_of_mem c hd)
    rw [← ih hgap, List.cons_append, trimStart, List.dropWhile_cons_of_pos hc]
    rfl

theorem trimStart_cons {c : Char} (h : isBlank c = false) (cs : List Char) :
    trimStart (c :: cs) = c :: cs := by
  rw [trimStart, List.dropWhile_cons_of_neg (by simp [h])]

/-- The blanks in front of a text, and what is left once they are gone. -/
theorem trimStart_eq (cs : List Char) : ∃ gap, AllBlank gap ∧ cs = gap ++ trimStart cs := by
  refine ⟨cs.takeWhile isBlank, ?_, List.takeWhile_append_dropWhile.symm⟩
  intro c hc
  exact List.all_eq_true.mp List.all_takeWhile c hc

/-- What is left begins with a symbol that is not blank, if it is not empty. -/
theorem trimStart_head {cs rest : List Char} {c : Char} (h : trimStart cs = c :: rest) :
    isBlank c = false := by
  have hhead := List.head?_dropWhile_not isBlank cs
  rw [trimStart] at h
  rw [h] at hhead
  simpa using hhead

theorem trimEnd_append {gap : List Char} (h : AllBlank gap) (cs : List Char) :
    trimEnd (cs ++ gap) = trimEnd cs := by
  have hreverse : AllBlank gap.reverse := fun c hc => h c (List.mem_reverse.mp hc)
  have htrim := trimStart_append hreverse cs.reverse
  rw [trimStart, trimStart] at htrim
  rw [trimEnd, List.reverse_append, htrim, trimEnd]

theorem trimEnd_concat {c : Char} (h : isBlank c = false) (cs : List Char) :
    trimEnd (cs ++ [c]) = cs ++ [c] := by
  have htrim := trimStart_cons h cs.reverse
  rw [trimStart] at htrim
  rw [trimEnd, List.reverse_append, List.reverse_singleton, List.singleton_append, htrim]
  simp

/-- A text between blanks, whose own ends are not blank. -/
theorem trim_between {gap gap' cs : List Char} (hgap : AllBlank gap) (hgap' : AllBlank gap')
    (hstart : trimStart cs = cs) (hend : trimEnd cs = cs) : trim (gap ++ (cs ++ gap')) = cs := by
  have hfront : trimStart (cs ++ gap') = cs ++ gap' ∨ cs = [] := by
    cases cs with
    | nil => exact .inr rfl
    | cons c cs => exact .inl (trimStart_cons (trimStart_head hstart) (cs ++ gap'))
  rw [trim, trimStart_append hgap]
  rcases hfront with hfront | rfl
  · rw [hfront, trimEnd_append hgap', hend]
  · have hnone := trimStart_append hgap' []
    rw [List.append_nil] at hnone
    rw [List.nil_append, hnone]
    rfl

theorem trimStart_append_left {a : List Char} (ha : trimStart a = a) (hne : a ≠ []) (b : List Char) :
    trimStart (a ++ b) = a ++ b := by
  obtain ⟨c, rest, rfl⟩ := List.exists_cons_of_ne_nil hne
  exact trimStart_cons (trimStart_head ha) (rest ++ b)

theorem trimStart_reverse {a : List Char} (ha : trimEnd a = a) : trimStart a.reverse = a.reverse := by
  rw [trimEnd] at ha
  have hreverse := congrArg List.reverse ha
  rw [List.reverse_reverse] at hreverse
  exact hreverse

theorem trimEnd_append_right {b : List Char} (hb : trimEnd b = b) (hne : b ≠ []) (a : List Char) :
    trimEnd (a ++ b) = a ++ b := by
  have hfront := trimStart_append_left (trimStart_reverse hb) (by simpa using hne) a.reverse
  rw [trimStart] at hfront
  rw [trimEnd, List.reverse_append, hfront, List.reverse_append, List.reverse_reverse,
    List.reverse_reverse]

/-- Only the blanks in front of the first part go, where the second one begins with none. -/
theorem trimStart_append_of_starts {a b : List Char} (hb : trimStart b = b) :
    trimStart (a ++ b) = trimStart a ++ b := by
  induction a with
  | nil => exact hb
  | cons c a ih =>
    cases hc : isBlank c with
    | true =>
      have hfront : trimStart (c :: a) = trimStart a := List.dropWhile_cons_of_pos hc
      have hwhole : trimStart (c :: (a ++ b)) = trimStart (a ++ b) := List.dropWhile_cons_of_pos hc
      rw [List.cons_append, hwhole, hfront, ih]
    | false => rw [List.cons_append, trimStart_cons hc, trimStart_cons hc, List.cons_append]

/-- Only the blanks at the end of the second part go, where the first one ends with none. -/
theorem trimEnd_append_of_ends {a b : List Char} (ha : trimEnd a = a) :
    trimEnd (a ++ b) = a ++ trimEnd b := by
  have hfront := trimStart_append_of_starts (a := b.reverse) (trimStart_reverse ha)
  rw [trimStart, trimStart] at hfront
  rw [trimEnd, List.reverse_append, hfront, List.reverse_append, List.reverse_reverse, trimEnd]

/-- The blanks at the end of a text, and what is left once they are gone. -/
theorem trimEnd_eq (cs : List Char) : ∃ gap, AllBlank gap ∧ cs = trimEnd cs ++ gap := by
  obtain ⟨gap, hgap, hsplit⟩ := trimStart_eq cs.reverse
  refine ⟨gap.reverse, fun c hc => hgap c (List.mem_reverse.mp hc), ?_⟩
  have hreverse := congrArg List.reverse hsplit
  rw [List.reverse_reverse, List.reverse_append] at hreverse
  exact hreverse

theorem trimEnd_trimEnd (cs : List Char) : trimEnd (trimEnd cs) = trimEnd cs := by
  obtain ⟨gap, hgap, hsplit⟩ := trimEnd_eq cs
  have htrim := trimEnd_append hgap (trimEnd cs)
  rw [← hsplit] at htrim
  exact htrim.symm

theorem trimStart_trimStart (cs : List Char) : trimStart (trimStart cs) = trimStart cs := by
  obtain ⟨gap, hgap, hsplit⟩ := trimStart_eq cs
  have htrim := trimStart_append hgap (trimStart cs)
  rw [← hsplit] at htrim
  exact htrim.symm

theorem trimStart_trim (cs : List Char) : trimStart (trim cs) = trim cs := by
  rw [trim]
  obtain ⟨gap, _, hsplit⟩ := trimEnd_eq (trimStart cs)
  have hfront := trimStart_trimStart cs
  cases hne : trimEnd (trimStart cs) with
  | nil => rfl
  | cons c rest =>
    rw [hne, List.cons_append] at hsplit
    exact trimStart_cons (trimStart_head hsplit) rest

theorem trimEnd_trim (cs : List Char) : trimEnd (trim cs) = trim cs := trimEnd_trimEnd _

/-- Trimming twice is trimming once. -/
theorem trim_trim (cs : List Char) : trim (trim cs) = trim cs := by
  rw [trim, trimStart_trim, trimEnd_trim]

/-- What trimming takes away are blanks at the two ends. -/
theorem trim_eq (cs : List Char) :
    ∃ gap gap', AllBlank gap ∧ AllBlank gap' ∧ cs = gap ++ (trim cs ++ gap') := by
  obtain ⟨gap, hgap, hfront⟩ := trimStart_eq cs
  obtain ⟨gap', hgap', hback⟩ := trimEnd_eq (trimStart cs)
  refine ⟨gap, gap', hgap, hgap', ?_⟩
  rw [trim, ← hback]
  exact hfront

theorem trimStart_sublist (cs : List Char) : (trimStart cs).Sublist cs := List.dropWhile_sublist _

theorem trimEnd_sublist (cs : List Char) : (trimEnd cs).Sublist cs := by
  have hreverse := (trimStart_sublist cs.reverse).reverse
  rwa [List.reverse_reverse] at hreverse

end Companion.Text
