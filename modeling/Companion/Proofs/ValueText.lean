import Companion.Json.Skip
import Companion.Proofs.RecordText

/-!
Values in a text. What is printed for a value is passed over to its last symbol, and read back as the
value with the members of its objects in order. Both are by induction on a value that fits: passing
over needs as much fuel as there are symbols, reading one more than containers are open.
-/

namespace Companion.Json

open Number Text

/-- Numbers are integers of 64 bits, and containers are at most so deep. -/
inductive Value.Fits : Value → Nat → Prop
  | null (n : Nat) : Fits .null n
  | bool (b : Bool) (n : Nat) : Fits (.bool b) n
  | whole {i : Int} (hlow : -2 ^ 63 ≤ i) (hhigh : i < 2 ^ 64) (n : Nat) : Fits (.number (.whole i)) n
  | string (s : String) (n : Nat) : Fits (.string s) n
  | array {items : List Value} {n : Nat} (h : ∀ v ∈ items, Fits v n) : Fits (.array items) (n + 1)
  | object {members : List (String × Value)} {n : Nat} (h : ∀ m ∈ members, Fits m.2 n) :
      Fits (.object members) (n + 1)

/-! ### Shapes -/

theorem printItems_cons (v : Value) (rest : List Value) :
    printItems (v :: rest) = v.print ++ rest.flatMap fun w => ',' :: w.print := by
  induction rest generalizing v with
  | nil => simp [printItems]
  | cons w rest ih =>
    rw [printItems, ih w]
    · rfl
    · simp

def fieldsOf (members : List (String × Value)) : List (String × List Char) :=
  members.map fun m => (m.1, m.2.print)

theorem printMembers_eq (members : List (String × Value)) :
    printMembers members = printFields (fieldsOf members) := by
  induction members with
  | nil => rfl
  | cons m rest ih =>
    obtain ⟨k, v⟩ := m
    cases rest with
    | nil => simp [printMembers, fieldsOf, printFields]
    | cons m rest =>
      rw [printMembers, ih]
      · rfl
      · simp

theorem print_array (items : List Value) :
    (Value.array items).print = '[' :: listTail Value.print items := by
  cases items with
  | nil => simp [Value.print, printItems, listTail]
  | cons v rest => simp [Value.print, printItems_cons, listTail]

theorem print_object (members : List (String × Value)) :
    (Value.object members).print = '\x7b' :: (printFields (fieldsOf members) ++ ['\x7d']) := by
  rw [Value.print, printMembers_eq]
  rfl

theorem print_string (s : String) : (Value.string s).print = '"' :: stringTail s := by
  rw [Value.print, printString_eq]

theorem print_negative {i : Int} (h : i < 0) :
    (Value.number (.whole i)).print = '-' :: Nat.toDigits 10 i.natAbs := by
  rw [Value.print, Numeral.print, writeInt, if_pos h]
  rfl

theorem print_natural {i : Int} (h : ¬ i < 0) :
    (Value.number (.whole i)).print = Nat.toDigits 10 i.natAbs := by
  rw [Value.print, Numeral.print, writeInt, if_neg h]
  rfl

theorem toDigits_opens (n : Nat) : ∃ c cs, Nat.toDigits 10 n = c :: cs ∧ c.isDigit = true := by
  cases hdigits : Nat.toDigits 10 n with
  | nil => exact absurd hdigits Nat.toDigits_ne_nil
  | cons c cs => exact ⟨c, cs, rfl, toDigits_isDigit (n := n) (hdigits ▸ List.mem_cons_self)⟩

/-- What is printed for a value begins with no blank and no closing bracket. -/
theorem Value.Fits.opens {v : Value} {n : Nat} (h : v.Fits n) : Opens v.print := by
  cases h with
  | null => exact ⟨'n', "ull".toList, rfl, rfl, by decide⟩
  | bool b =>
    cases b with
    | true => exact ⟨'t', "rue".toList, rfl, rfl, by decide⟩
    | false => exact ⟨'f', "alse".toList, rfl, rfl, by decide⟩
  | @whole i hlow hhigh =>
    by_cases hneg : i < 0
    · rw [print_negative hneg]
      exact ⟨'-', _, rfl, rfl, by decide⟩
    · rw [print_natural hneg]
      obtain ⟨c, cs, hdigits, hc⟩ := toDigits_opens i.natAbs
      refine ⟨c, cs, hdigits, isSpace_of_isDigit hc, ?_⟩
      rintro rfl
      exact absurd hc (by decide)
  | string s =>
    rw [Value.print]
    exact opens_printString s
  | array =>
    rw [print_array]
    exact ⟨'[', _, rfl, rfl, by decide⟩
  | object =>
    rw [print_object]
    exact ⟨'\x7b', _, rfl, rfl, by decide⟩

/-! ### Passing over -/

/-- What is written for a value is passed over, and what follows it is left. -/
def Skips (skip : List Symbol → Except Fault (List Symbol)) (text : List Char) : Prop :=
  ∀ rest, EndsNumber rest → skip (symbolsOf text ++ rest) = .ok rest

/-- One step passes over what one character was written as. -/
theorem skipString_printChar (n : Nat) (c : Char) (rest : List Symbol) :
    skipString (n + 1) (symbolsOf (printChar c) ++ rest) = skipString n rest := by
  by_cases hletter : c ∈ ['"', '\\', '\x08', '\x0c', '\n', '\r', '\t']
  · simp only [List.mem_cons, List.not_mem_nil, or_false] at hletter
    rcases hletter with rfl | rfl | rfl | rfl | rfl | rfl | rfl <;> rfl
  · have hplain := printChar_plain hletter
    simp only [List.mem_cons, List.not_mem_nil, or_false, not_or] at hletter
    obtain ⟨hquote, hslash, h8, hf, hn, hr, ht⟩ := hletter
    by_cases hcontrol : c.toNat < 0x20
    · have hhigh := hexValue?_hexDigit (n := c.toNat / 16) (by omega)
      have hlow := hexValue?_hexDigit (n := c.toNat % 16) (by omega)
      have hzero : hexValue? '0' = some 0 := rfl
      rw [printChar_control hcontrol (by simp [*])]
      simp [symbolsOf, skipString, readHex, hhigh, hlow, hzero, bind, Except.bind]
    · simp [hplain hcontrol, symbolsOf, skipString, hquote, hslash, hcontrol]

theorem skipString_written (cs : List Char) (n : Nat) (hn : cs.length < n) (rest : List Symbol) :
    skipString n (symbolsOf (cs.flatMap printChar ++ ['"']) ++ rest) = .ok rest := by
  induction cs generalizing n with
  | nil =>
    obtain ⟨m, rfl⟩ := Nat.exists_eq_succ_of_ne_zero (Nat.ne_of_gt hn)
    rfl
  | cons c cs ih =>
    obtain ⟨m, rfl⟩ := Nat.exists_eq_succ_of_ne_zero (Nat.ne_of_gt (Nat.zero_lt_of_lt hn))
    rw [List.flatMap_cons, List.append_assoc, symbolsOf_append, List.append_assoc,
      skipString_printChar]
    exact ih m (by simpa using hn)

/-- A string is passed over from after its opening quote on, with the fuel that it has. -/
theorem skipString_stringTail (s : String) (rest : List Symbol) :
    let t := symbolsOf (stringTail s) ++ rest
    skipString t.length t = .ok rest := by
  intro t
  have hlong := length_le_flatMap_printChar s.toList
  have hn : s.toList.length < t.length := by
    simp only [t, stringTail, List.length_append, length_symbolsOf, List.length_cons,
      List.length_nil]
    omega
  exact skipString_written s.toList t.length hn rest

/-- An integer is passed over by its digits. -/
theorem skipNumber_toDigits (n : Nat) : Skips skipNumber (Nat.toDigits 10 n) := by
  intro rest hrest
  obtain ⟨hdigit, hpoint, hmark⟩ := hrest.startsWith
  have hall : ∀ c ∈ Nat.toDigits 10 n, c.isDigit = true := fun c hc => toDigits_isDigit hc
  have htake := takeDigits_append hall hdigit
  obtain ⟨c, ds, hdigits, hc⟩ := toDigits_opens n
  rw [hdigits] at htake
  have hzero : ¬ (startsWith (· == '0') (symbolsOf (c :: ds) ++ rest) = true ∧
      startsWith Char.isDigit ((symbolsOf (c :: ds) ++ rest).drop 1) = true) := by
    rintro ⟨hfirst, htail⟩
    obtain rfl : c = '0' := by simpa [symbolsOf, startsWith_char] using hfirst
    rw [toDigits_leading_zero hdigits] at htail
    simp [symbolsOf, hdigit] at htail
  have hskip : skipDigits (symbolsOf (c :: ds) ++ rest) = .ok rest := by
    rw [skipDigits, htake]
    simp [symbolsOf, startsWith_char, hc]
  rw [hdigits]
  simp only [skipNumber, hskip, bind, Except.bind, if_neg hzero, hpoint, skipExponent, hmark,
    Bool.false_eq_true, if_false]

section Containers

variable {item : List Symbol → Except Fault (List Symbol)}

theorem skipItems_flatMap {α : Type} {print : α → List Char} {xs : List α}
    (h : ∀ x ∈ xs, Skips item (print x)) (n : Nat) (hn : xs.length < n) (rest : List Symbol) :
    skipItems item n (symbolsOf (xs.flatMap fun x => ',' :: print x) ++ .char ']' :: rest) =
      .ok rest := by
  induction xs generalizing n with
  | nil =>
    obtain ⟨m, rfl⟩ := Nat.exists_eq_succ_of_ne_zero (Nat.ne_of_gt hn)
    rfl
  | cons x xs ih =>
    obtain ⟨m, rfl⟩ := Nat.exists_eq_succ_of_ne_zero (Nat.ne_of_gt (Nat.zero_lt_of_lt hn))
    have hone := h x List.mem_cons_self _ (endsNumber_items print xs rest)
    have htail := ih (fun y hy => h y (List.mem_cons_of_mem x hy)) m (by simpa using hn)
    rw [List.flatMap_cons, List.cons_append, symbolsOf_cons, symbolsOf_append, List.cons_append,
      List.append_assoc, skipItems, dropSpace_char rfl]
    simp only [Symbol.char.injEq, Char.reduceEq, if_false, if_true, bind, Except.bind, hone, htail]

/-- A written list is passed over from after its bracket on. -/
theorem skipList_listTail {α : Type} {print : α → List Char} {xs : List α}
    (h : ∀ x ∈ xs, Opens (print x) ∧ Skips item (print x)) (rest : List Symbol) :
    skipList item (symbolsOf (listTail print xs) ++ rest) = .ok rest := by
  cases xs with
  | nil => rfl
  | cons x xs =>
    obtain ⟨⟨c, cs, hprint, hspace, hclose⟩, hone⟩ := h x List.mem_cons_self
    have hitem := hone _ (endsNumber_items print xs rest)
    have hlong := length_le_flatMap_comma print xs
    have htail := skipItems_flatMap (fun y hy => (h y (List.mem_cons_of_mem x hy)).2)
      ((symbolsOf (xs.flatMap fun x => ',' :: print x) ++ .char ']' :: rest).length + 1)
      (by simp only [List.length_append, length_symbolsOf]; omega) rest
    have hshape : symbolsOf (listTail print (x :: xs)) ++ rest = symbolsOf (print x) ++
        (symbolsOf (xs.flatMap fun x => ',' :: print x) ++ .char ']' :: rest) := by
      simp [listTail, symbolsOf]
    rw [hshape]
    rw [hprint, symbolsOf_cons, List.cons_append] at hitem ⊢
    rw [skipList, dropSpace_char hspace]
    simp only [Symbol.char.injEq, hclose, if_false, bind, Except.bind, hitem, htail]

/-- A key is passed over with the colon after it. -/
theorem skipKey_quote (name : String) (rest : List Symbol) :
    skipKey (.char '"' :: (symbolsOf (stringTail name) ++ .char ':' :: rest)) = .ok rest := by
  have hname := skipString_stringTail name (.char ':' :: rest)
  dsimp only at hname
  rw [skipKey, dropSpace_char rfl]
  simp only [if_true, bind, Except.bind, hname]
  rw [dropSpace_char rfl]
  rfl

theorem skipMembers_printFields {fs : List (String × List Char)} (h : ∀ f ∈ fs, Skips item f.2)
    (n : Nat) (hn : fs.length < n) (rest : List Symbol) :
    skipMembers item n ((if fs = [] then [] else [.char ',']) ++
      (symbolsOf (printFields fs) ++ .char '\x7d' :: rest)) = .ok rest := by
  induction fs generalizing n with
  | nil =>
    obtain ⟨m, rfl⟩ := Nat.exists_eq_succ_of_ne_zero (Nat.ne_of_gt hn)
    rfl
  | cons f fs ih =>
    obtain ⟨m, rfl⟩ := Nat.exists_eq_succ_of_ne_zero (Nat.ne_of_gt (Nat.zero_lt_of_lt hn))
    obtain ⟨name, value⟩ := f
    have hone := h (name, value) List.mem_cons_self _ (endsNumber_fields fs rest)
    have htail := ih (fun g hg => h g (List.mem_cons_of_mem _ hg)) m (by simpa using hn)
    rw [symbolsOf_printFields_cons, if_neg (List.cons_ne_nil _ _), List.singleton_append,
      skipMembers, dropSpace_char rfl]
    simp only [Symbol.char.injEq, Char.reduceEq, if_false, if_true, bind, Except.bind,
      skipKey_quote, hone, htail]

/-- A written object is passed over from after its brace on. -/
theorem skipObject_printFields {fs : List (String × List Char)} (h : ∀ f ∈ fs, Skips item f.2)
    (rest : List Symbol) :
    skipObject item (symbolsOf (printFields fs ++ ['\x7d']) ++ rest) = .ok rest := by
  rw [symbolsOf_append, List.append_assoc]
  show skipObject item (symbolsOf (printFields fs) ++ .char '\x7d' :: rest) = .ok rest
  cases fs with
  | nil => rfl
  | cons f fs =>
    obtain ⟨name, value⟩ := f
    have hone := h (name, value) List.mem_cons_self _ (endsNumber_fields fs rest)
    have hlong := length_le_printFields fs
    have htail := skipMembers_printFields (fun g hg => h g (List.mem_cons_of_mem _ hg))
      (((if fs = [] then [] else [Symbol.char ',']) ++
        (symbolsOf (printFields fs) ++ Symbol.char '\x7d' :: rest)).length + 1)
      (by simp only [List.length_append, length_symbolsOf]; omega) rest
    rw [symbolsOf_printFields_cons, skipObject, dropSpace_char rfl]
    simp only [Symbol.char.injEq, Char.reduceEq, if_false, bind, Except.bind, skipKey_quote, hone,
      htail]

end Containers

theorem length_le_listTail {α : Type} (print : α → List Char) {xs : List α} {x : α} (h : x ∈ xs) :
    (print x).length < (listTail print xs).length := by
  cases xs with
  | nil => exact absurd h List.not_mem_nil
  | cons y ys =>
    simp only [listTail, List.length_append, List.length_cons, List.length_nil]
    rcases List.mem_cons.mp h with rfl | h
    · omega
    · obtain ⟨a, b, rfl⟩ := List.append_of_mem h
      simp only [List.flatMap_append, List.flatMap_cons, List.length_append, List.length_cons]
      omega

theorem length_le_printFields_of_mem {fs : List (String × List Char)} {f : String × List Char}
    (h : f ∈ fs) : f.2.length < (printFields fs).length := by
  induction fs with
  | nil => exact absurd h List.not_mem_nil
  | cons g fs ih =>
    rw [printFields_cons]
    simp only [List.length_cons, List.length_append]
    rcases List.mem_cons.mp h with rfl | h
    · omega
    · have hrest := ih h
      rw [if_neg (List.ne_nil_of_mem h), List.length_cons]
      omega

/-- What is printed for a value is passed over with as much fuel as it has symbols. -/
theorem Value.Fits.skips {v : Value} {n : Nat} (h : v.Fits n) (m : Nat) (hm : v.print.length ≤ m) :
    Skips (skipWithin (m + 1)) v.print := by
  induction h generalizing m with
  | null =>
    intro rest _
    rfl
  | bool b =>
    intro rest _
    cases b <;> rfl
  | @whole i hlow hhigh =>
    intro rest hrest
    have hdigits := skipNumber_toDigits i.natAbs rest hrest
    by_cases hneg : i < 0
    · rw [print_negative hneg, symbolsOf_cons, List.cons_append, skipWithin, dropSpace_char rfl]
      exact hdigits
    · obtain ⟨c, cs, hopens, hc⟩ := toDigits_opens i.natAbs
      rw [print_natural hneg]
      rw [hopens, symbolsOf_cons, List.cons_append] at hdigits ⊢
      rw [skipWithin_number (dropSpace_char (isSpace_of_isDigit hc) _) _ hc, hdigits]
  | string s =>
    intro rest _
    rw [print_string, symbolsOf_cons, List.cons_append, skipWithin, dropSpace_char rfl]
    exact skipString_stringTail s rest
  | @array items n h ih =>
    intro rest _
    rw [print_array, List.length_cons] at hm
    obtain ⟨m, rfl⟩ := Nat.exists_eq_succ_of_ne_zero (Nat.ne_of_gt (Nat.zero_lt_of_lt hm))
    have hitems : ∀ v ∈ items, Opens v.print ∧ Skips (fun s => skipWithin (m + 1) s) v.print := by
      intro v hv
      have hlong := length_le_listTail Value.print hv
      exact ⟨(h v hv).opens, ih v hv m (by omega)⟩
    rw [print_array, symbolsOf_cons, List.cons_append, skipWithin, dropSpace_char rfl]
    exact skipList_listTail hitems rest
  | @object members n h ih =>
    intro rest _
    rw [print_object, List.length_cons, List.length_append] at hm
    obtain ⟨m, rfl⟩ := Nat.exists_eq_succ_of_ne_zero (Nat.ne_of_gt (Nat.zero_lt_of_lt hm))
    have hfields : ∀ f ∈ fieldsOf members, Skips (fun s => skipWithin (m + 1) s) f.2 := by
      intro f hf
      have hlong := length_le_printFields_of_mem hf
      obtain ⟨member, hmember, rfl⟩ := List.mem_map.mp hf
      dsimp only at hlong
      exact ih member hmember m (by omega)
    rw [print_object, symbolsOf_cons, List.cons_append, skipWithin, dropSpace_char rfl]
    exact skipObject_printFields hfields rest

/-! ### Reading back -/

mutual

/-- A value as it is read: the members of an object by rising key, of two with one key the last. -/
def Value.settled : Value → Value
  | .null => .null
  | .bool b => .bool b
  | .number n => .number n
  | .string s => .string s
  | .array items => .array (settledItems items)
  | .object members => .object (settledMembers [] members)

def settledItems : List Value → List Value
  | [] => []
  | v :: rest => v.settled :: settledItems rest

/-- Members as they are read, after those that are in their places. -/
def settledMembers : (placed members : List (String × Value)) → List (String × Value)
  | placed, [] => placed
  | placed, (k, v) :: rest => settledMembers (place k v.settled placed) rest

end

theorem settledItems_eq (items : List Value) : settledItems items = items.map Value.settled := by
  induction items with
  | nil => rfl
  | cons v rest ih => rw [settledItems, List.map_cons, ih]

theorem settledMembers_sorted {placed members : List (String × Value)} (h : IsSorted placed) :
    IsSorted (settledMembers placed members) := by
  induction members generalizing placed with
  | nil => exact h
  | cons m rest ih => exact ih (place_sorted h)

/-- The last member of a key is the one that stays. -/
theorem valueOf?_settledMembers (key : String) (placed members : List (String × Value)) :
    valueOf? key (settledMembers placed members) =
      ((valueOf? key members.reverse).map Value.settled).or (valueOf? key placed) := by
  induction members generalizing placed with
  | nil => rfl
  | cons m rest ih =>
    obtain ⟨k, v⟩ := m
    rw [settledMembers, ih, valueOf?_place, List.reverse_cons, valueOf?_append, valueOf?, valueOf?]
    cases valueOf? key rest.reverse with
    | some w => rfl
    | none => by_cases hkey : k = key <;> simp [hkey]

/-- The members of every object are listed by rising key. -/
inductive Value.InOrder : Value → Prop
  | null : InOrder .null
  | bool (b : Bool) : InOrder (.bool b)
  | number (n : Numeral) : InOrder (.number n)
  | string (s : String) : InOrder (.string s)
  | array {items : List Value} (h : ∀ v ∈ items, InOrder v) : InOrder (.array items)
  | object {members : List (String × Value)} (hsorted : IsSorted members)
      (h : ∀ m ∈ members, InOrder m.2) : InOrder (.object members)

theorem settledMembers_of_sorted {placed members : List (String × Value)}
    (hsorted : IsSorted (placed ++ members)) (h : ∀ m ∈ members, m.2.settled = m.2) :
    settledMembers placed members = placed ++ members := by
  induction members generalizing placed with
  | nil => exact (List.append_nil placed).symm
  | cons m rest ih =>
    obtain ⟨k, v⟩ := m
    have hlast : place k v placed = placed ++ [(k, v)] := by
      apply place_last
      intro e he
      exact (List.pairwise_append.mp hsorted).2.2 e he (k, v) List.mem_cons_self
    have hv : v.settled = v := h (k, v) List.mem_cons_self
    have hshape : placed ++ (k, v) :: rest = (placed ++ [(k, v)]) ++ rest := by simp
    rw [settledMembers, hv, hlast, hshape]
    apply ih
    · rwa [← hshape]
    · intro m hm
      exact h m (List.mem_cons_of_mem _ hm)

/-- A value in order is read as it is. -/
theorem Value.InOrder.settled_eq {v : Value} (h : v.InOrder) : v.settled = v := by
  induction h with
  | null => rfl
  | bool => rfl
  | number => rfl
  | string => rfl
  | @array items _ ih =>
    rw [Value.settled, settledItems_eq]
    exact congrArg Value.array ((List.map_congr_left ih).trans (List.map_id items))
  | object hsorted _ ih =>
    rw [Value.settled, settledMembers_of_sorted (by simpa using hsorted) ih, List.nil_append]

/-- Members are read into their places one by one. -/
theorem folds_members {n : Nat} {members : List (String × Value)}
    (h : ∀ m ∈ members, Reads (readWithin n) m.2.print m.2.settled)
    (placed : List (String × Value)) :
    Folds (fun key placed s => do
      let s ← readColon s
      let (v, s) ← readWithin n s
      .ok (place key v placed, s)) placed (fieldsOf members) (settledMembers placed members) := by
  induction members generalizing placed with
  | nil => exact .nil placed
  | cons m rest ih =>
    obtain ⟨k, v⟩ := m
    have hone := h (k, v) List.mem_cons_self
    have htail := ih (fun m hm => h m (List.mem_cons_of_mem _ hm)) (place k v.settled placed)
    refine .cons ?_ htail
    intro rest hrest
    have hread := hone rest hrest
    rw [symbolsOf_cons, List.cons_append]
    simp only [readColon_colon, hread, bind, Except.bind]

/-- What is printed for a value is read back with its objects in order. -/
theorem Value.Fits.reads {v : Value} {n : Nat} (h : v.Fits n) :
    Reads (readWithin (n + 1)) v.print v.settled := by
  induction h with
  | null n =>
    intro rest _
    rfl
  | bool b n =>
    intro rest _
    cases b <;> rfl
  | @whole i hlow hhigh n =>
    intro rest hrest
    have hlimit : wordLimit = 2 ^ 64 - 1 := rfl
    have hvalue := wholeOf_natAbs hlow
    have hdigits := readNumber_toDigits (decide (i < 0)) (by omega : i.natAbs ≤ wordLimit) hrest
    rw [hvalue] at hdigits
    by_cases hneg : i < 0
    · rw [decide_eq_true hneg] at hdigits
      rw [print_negative hneg, symbolsOf_cons, List.cons_append, readWithin, dropSpace_char rfl]
      simp only [bind, Except.bind, hdigits, Value.settled]
    · obtain ⟨c, cs, hopens, hc⟩ := toDigits_opens i.natAbs
      rw [decide_eq_false hneg] at hdigits
      rw [print_natural hneg]
      rw [hopens, symbolsOf_cons, List.cons_append] at hdigits ⊢
      rw [readWithin_number (dropSpace_char (isSpace_of_isDigit hc) _) _ hc]
      simp only [bind, Except.bind, hdigits, Value.settled]
  | string s n =>
    intro rest _
    rw [print_string, symbolsOf_cons, List.cons_append, readWithin, dropSpace_char rfl]
    simp only [bind, Except.bind, readText_stringTail, Value.settled]
  | @array items n h ih =>
    intro rest _
    have hread := readItems_list (fun v hv => ⟨(h v hv).opens, ih v hv⟩) rest
    rw [print_array, symbolsOf_cons, List.cons_append, readWithin, dropSpace_char rfl]
    simp only [Nat.add_one_ne_zero, if_false, bind, Except.bind, hread, Value.settled,
      settledItems_eq]
  | @object members n h ih =>
    intro rest _
    have hread := readMembers_object (folds_members ih []) rest
    rw [print_object, symbolsOf_cons, List.cons_append, readWithin, dropSpace_char rfl]
    simp only [Nat.add_one_ne_zero, if_false, Value.settled]
    simp only [bind, Except.bind] at hread ⊢
    rw [hread]

/-- A whole value is read with its objects in order. -/
theorem parse_print {v : Value} (h : v.Fits 127) : parse v.print = .ok v.settled := by
  have hread := h.reads [] endsNumber_nil
  rw [List.append_nil] at hread
  rw [parse, readAll, readValue, depthLimit, hread]
  rfl

/-- A value in order is read back as it was written. -/
theorem parse_print_inOrder {v : Value} (h : v.Fits 127) (horder : v.InOrder) :
    parse v.print = .ok v := by
  rw [parse_print h, horder.settled_eq]

end Companion.Json
