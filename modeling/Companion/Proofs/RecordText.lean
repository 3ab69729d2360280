import Companion.Proofs.StampText
import Companion.Proofs.TableLaws
import Companion.Record.Basic

/-!
A record is read back from the octets in which it is stored. Each printer is paired with its reader:
the reader takes what was written off the front of any text, as long as no number is cut short by
what follows.
-/

namespace Companion

open Number Text Time Json

/-- The reader takes what was written for a value, and leaves what follows it. -/
def Reads {α : Type} (read : Reader α) (text : List Char) (x : α) : Prop :=
  ∀ rest, EndsNumber rest → read (symbolsOf text ++ rest) = .ok (x, rest)

/-- What is written does not begin like a blank or like the end of a list. -/
def Opens (text : List Char) : Prop :=
  ∃ c cs, text = c :: cs ∧ isSpace (.char c) = false ∧ c ≠ ']'

theorem dropSpace_char {c : Char} (hc : isSpace (.char c) = false) (rest : List Symbol) :
    dropSpace (.char c :: rest) = .char c :: rest := by
  simp [dropSpace, hc]

theorem endsNumber_comma (rest : List Symbol) : EndsNumber (.char ',' :: rest) :=
  endsNumber_cons rest rfl

theorem endsNumber_bracket (rest : List Symbol) : EndsNumber (.char ']' :: rest) :=
  endsNumber_cons rest rfl

theorem endsNumber_brace (rest : List Symbol) : EndsNumber (.char '\x7d' :: rest) :=
  endsNumber_cons rest rfl

/-! ### Scalars -/

theorem opens_printString (s : String) : Opens (printString s) :=
  ⟨'"', stringTail s, rfl, rfl, by decide⟩

theorem reads_textAs (expected s : String) : Reads (decodeTextAs expected) (printString s) s := by
  intro rest _
  have hspace := dropSpace_char (c := '"') rfl (symbolsOf (stringTail s) ++ rest)
  rw [printString_eq, symbolsOf_cons, List.cons_append, decodeTextAs, expecting, hspace]
  simp only [if_true, readText_stringTail]

theorem reads_stamp (t : Instant) : Reads readStamp (printStamp t) t.settled := by
  intro rest hrest
  have htext := reads_textAs "an RFC 3339 formatted date and time string" t.render rest hrest
  rw [printStamp, readStamp, htext]
  simp [Instant.render, parseStamp_print, bind, Except.bind]

theorem isSpace_of_isDigit {c : Char} (h : c.isDigit = true) : isSpace (.char c) = false := by
  have hblank := isBlank_of_isDigit h
  simp only [isSpace, Bool.or_eq_false_iff, beq_eq_false_iff_ne, ne_eq, Symbol.char.injEq]
  refine ⟨⟨⟨?_, ?_⟩, ?_⟩, ?_⟩ <;> rintro rfl <;> simp [isBlank] at hblank

theorem reads_natural (name : String) (low high : Int) {n : Nat} (hlow : low ≤ n) (hhigh : n ≤ high)
    (hn : n ≤ wordLimit) : Reads (decodeInteger low high name) (Nat.toDigits 10 n) n := by
  intro rest hrest
  have hread := readNumber_toDigits false hn hrest
  cases hds : Nat.toDigits 10 n with
  | nil => exact absurd hds Nat.toDigits_ne_nil
  | cons c ds =>
    have hc : c.isDigit = true := toDigits_isDigit (n := n) (hds ▸ List.mem_cons_self)
    have hminus : c ≠ '-' := by
      rintro rfl
      simp at hc
    rw [hds, symbolsOf_cons, List.cons_append] at hread
    rw [symbolsOf_cons, List.cons_append, decodeInteger, dropSpace_char (isSpace_of_isDigit hc)]
    simp [hminus, startsWith_char, hc, hread, wholeOf, hlow, hhigh, bind, Except.bind]

theorem reads_integer (name : String) {low high : Int} {n : Int} (hlow : low ≤ n) (hhigh : n ≤ high)
    (hmin : -2 ^ 63 ≤ n) (hmax : n ≤ wordLimit) :
    Reads (decodeInteger low high name) (writeInt n) n := by
  intro rest hrest
  by_cases hneg : n < 0
  · have hn : n.natAbs ≤ wordLimit := by
      have : wordLimit = 18446744073709551615 := rfl
      omega
    have hread := readNumber_toDigits true hn hrest
    have hwhole := wholeOf_natAbs hmin
    rw [decide_eq_true hneg] at hwhole
    rw [writeInt, if_pos hneg, List.cons_append, List.nil_append, symbolsOf_cons, List.cons_append,
      decodeInteger, dropSpace_char rfl]
    simp [hread, hwhole, hlow, hhigh, bind, Except.bind]
  · obtain ⟨m, rfl⟩ := Int.eq_ofNat_of_zero_le (Int.not_lt.mp hneg)
    have hm : m ≤ wordLimit := by omega
    have hread := reads_natural name low high hlow hhigh hm rest hrest
    simpa [writeInt, hneg] using hread

theorem reads_id (n : Int64) : Reads readId (writeInt n.toInt) n := by
  intro rest hrest
  have hlow : -2 ^ 63 ≤ n.toInt := n.le_toInt
  have hhigh : n.toInt < 2 ^ 63 := n.toInt_lt
  have hmin : Int64.minValue.toInt = -2 ^ 63 := by decide
  have hmax : Int64.maxValue.toInt = 2 ^ 63 - 1 := by decide
  have hword : wordLimit = 18446744073709551615 := rfl
  have hread := reads_integer "i64" (hmin ▸ hlow)
    (by omega : n.toInt ≤ Int64.maxValue.toInt) hlow (by omega) rest hrest
  simp only [readId, hread, bind, Except.bind, Int64.ofInt_toInt]

/-! ### Containers -/

theorem printFields_cons (name : String) (value : List Char) (fs : List (String × List Char)) :
    printFields ((name, value) :: fs) = '"' :: (stringTail name ++ ':' :: (value ++
      if fs = [] then [] else ',' :: printFields fs)) := by
  cases fs <;> simp [printFields, printString_eq]

/-- The members of an object change what is read so far step by step. -/
inductive Folds {σ : Type} (member : String → σ → Reader σ) : σ → List (String × List Char) → σ → Prop
  | nil (state : σ) : Folds member state [] state
  | cons {state next last : σ} {name : String} {value : List Char}
      {fs : List (String × List Char)}
      (hone : Reads (member name state) (':' :: value) next) (hrest : Folds member next fs last) :
      Folds member state ((name, value) :: fs) last

theorem readMembers_end {σ : Type} (member : String → σ → Reader σ) (n : Nat) (first : Bool)
    (state : σ) (rest : List Symbol) :
    readMembers member (n + 1) first state (.char '\x7d' :: rest) = .ok (state, rest) := by
  have hspace := dropSpace_char (c := '\x7d') rfl rest
  simp [readMembers, moreMembers, hspace, bind, Except.bind]

/-- Another member follows where a quote stands, after a comma unless it is the first. -/
theorem moreMembers_quote (first : Bool) (rest : List Symbol) :
    moreMembers first ((if first then [] else [.char ',']) ++ .char '"' :: rest) =
      .ok (true, rest) := by
  have hquote := dropSpace_char (c := '"') rfl rest
  have hcomma := dropSpace_char (c := ',') rfl (.char '"' :: rest)
  cases first <;> simp [moreMembers, hquote, hcomma]

theorem symbolsOf_printFields_cons (name : String) (value : List Char)
    (fs : List (String × List Char)) (rest : List Symbol) :
    symbolsOf (printFields ((name, value) :: fs)) ++ .char '\x7d' :: rest =
      .char '"' :: (symbolsOf (stringTail name) ++ .char ':' :: (symbolsOf value ++
        ((if fs = [] then [] else [.char ',']) ++
          (symbolsOf (printFields fs) ++ .char '\x7d' :: rest)))) := by
  rw [printFields_cons]
  cases fs <;> simp [symbolsOf, printFields]

theorem endsNumber_fields (fs : List (String × List Char)) (rest : List Symbol) :
    EndsNumber ((if fs = [] then [] else [.char ',']) ++
      (symbolsOf (printFields fs) ++ .char '\x7d' :: rest)) := by
  cases fs with
  | nil => exact endsNumber_brace rest
  | cons f fs => exact endsNumber_comma _

/-- Written members are read one after the other, up to the brace. -/
theorem readMembers_printFields {σ : Type} {member : String → σ → Reader σ} {state last : σ}
    {fs : List (String × List Char)} (h : Folds member state fs last) (n : Nat) (first : Bool)
    (hn : fs.length < n) (rest : List Symbol) :
    readMembers member n first state
        ((if first ∨ fs = [] then [] else [.char ',']) ++
          (symbolsOf (printFields fs) ++ .char '\x7d' :: rest)) = .ok (last, rest) := by
  induction h generalizing n first with
  | nil state =>
    obtain ⟨m, rfl⟩ := Nat.exists_eq_succ_of_ne_zero (Nat.ne_of_gt hn)
    simpa [printFields, symbolsOf] using readMembers_end member m first state rest
  | @cons state next last name value fs hone hrest ih =>
    obtain ⟨m, rfl⟩ := Nat.exists_eq_succ_of_ne_zero (Nat.ne_of_gt (Nat.zero_lt_of_lt hn))
    have hm : fs.length < m := by simpa using hn
    have htail := ih m false hm
    simp only [Bool.false_eq_true, false_or] at htail
    have hvalue := hone _ (endsNumber_fields fs rest)
    rw [symbolsOf_cons, List.cons_append] at hvalue
    rw [symbolsOf_printFields_cons]
    simp only [List.cons_ne_nil, or_false]
    rw [readMembers, moreMembers_quote]
    simp only [bind, Except.bind, if_true, readText_stringTail, hvalue, htail]

theorem printObject_eq (fs : List (String × List Char)) :
    printObject fs = '\x7b' :: (printFields fs ++ ['\x7d']) := rfl

theorem opens_printObject (fs : List (String × List Char)) : Opens (printObject fs) :=
  ⟨'\x7b', printFields fs ++ ['\x7d'], rfl, rfl, by decide⟩

theorem length_le_printFields (fs : List (String × List Char)) :
    fs.length ≤ (printFields fs).length := by
  induction fs with
  | nil => exact Nat.le_refl _
  | cons f fs ih =>
    rw [printFields_cons]
    cases fs with
    | nil => simp
    | cons g fs =>
      simp only [reduceCtorEq, if_false, List.length_cons, List.length_append] at ih ⊢
      omega

/-- Members from after the brace of a written object on, with the fuel that its reader has. -/
theorem readMembers_object {σ : Type} {member : String → σ → Reader σ} {state last : σ}
    {fs : List (String × List Char)} (h : Folds member state fs last) (rest : List Symbol) :
    let s := symbolsOf (printFields fs ++ ['\x7d']) ++ rest
    readMembers member (s.length + 1) true state s = .ok (last, rest) := by
  intro s
  have hlong := length_le_printFields fs
  have hn : fs.length < s.length + 1 := by
    simp only [s, List.length_append, length_symbolsOf]
    omega
  have hread := readMembers_printFields h (s.length + 1) true hn rest
  simpa [s, symbolsOf] using hread

theorem reads_members {α σ : Type} {value : Reader α} {start last : σ} (add : String → α → σ → σ)
    {fs : List (String × List Char)}
    (h : Folds (fun key state s => do
      let (x, s) ← value (← readColon s)
      .ok (add key x state, s)) start fs last) :
    Reads (decodeMembers value start add) (printObject fs) last := by
  intro rest _
  have hread := readMembers_object h rest
  rw [printObject_eq, symbolsOf_cons, List.cons_append, decodeMembers, expecting,
    dropSpace_char rfl]
  simpa using hread

theorem readColon_colon (rest : List Symbol) : readColon (.char ':' :: rest) = .ok rest := by
  simp [readColon, dropSpace_char (c := ':') rfl rest]

/-- A member whose value is read as such. -/
theorem reads_member {α σ : Type} {value : Reader α} (add : String → α → σ → σ) {text : List Char}
    {x : α} (h : Reads value text x) (key : String) (state : σ) :
    Reads (fun s => do
      let (x, s) ← value (← readColon s)
      .ok (add key x state, s)) (':' :: text) (add key x state) := by
  intro rest hrest
  have hread := h rest hrest
  rw [symbolsOf_cons, List.cons_append]
  simp [readColon_colon, hread, bind, Except.bind]

/-- Facts are read back in whatever order they were written. -/
theorem reads_facts_listing (facts : Facts) {listing : List (String × String)}
    (h : listing.Perm facts.entries) :
    Reads Facts.read (printObject (listing.map fun e => (e.1, printString e.2))) facts := by
  have hfolds : ∀ (es : List (String × String)) (t : Facts),
      Folds (fun key (state : Facts) s => do
        let value ← decodeText (← readColon s)
        .ok (state.insert key value.1, value.2)) t (es.map fun e => (e.1, printString e.2))
        (es.foldl (fun t e => t.insert e.1 e.2) t) := by
    intro es
    induction es with
    | nil => exact fun t => .nil t
    | cons e es ih =>
      exact fun t => .cons
        (reads_member (fun name value (facts : Facts) => facts.insert name value)
          (reads_textAs "a string" e.2) e.1 t) (ih _)
  have hread := reads_members (fun name value (facts : Facts) => facts.insert name value)
    (hfolds listing .empty)
  rwa [Table.foldl_insert_perm facts h] at hread

/-- Another item follows where one begins, after a comma unless it is the first. -/
theorem moreItems_opens {text : List Char} (h : Opens text) (first : Bool) (rest : List Symbol) :
    moreItems first ((if first then [] else [.char ',']) ++ (symbolsOf text ++ rest)) =
      .ok (true, symbolsOf text ++ rest) := by
  obtain ⟨c, cs, rfl, hspace, hclose⟩ := h
  have hitem := dropSpace_char hspace (symbolsOf cs ++ rest)
  have hcomma := dropSpace_char (c := ',') rfl (.char c :: (symbolsOf cs ++ rest))
  cases first <;> simp [moreItems, symbolsOf_cons, hitem, hcomma, hclose]

theorem endsNumber_items {α : Type} (print : α → List Char) (xs : List α) (rest : List Symbol) :
    EndsNumber (symbolsOf (xs.flatMap fun x => ',' :: print x) ++ .char ']' :: rest) := by
  cases xs with
  | nil => exact endsNumber_bracket rest
  | cons x xs => exact endsNumber_comma _

/-- Items after the first one, each with a comma in front, are read up to the bracket. -/
theorem readItems_flatMap {α β : Type} {item : Reader α} {print : β → List Char} {f : β → α}
    {xs : List β} (h : ∀ x ∈ xs, Opens (print x) ∧ Reads item (print x) (f x)) (n : Nat)
    (hn : xs.length < n) (rest : List Symbol) :
    readItems item n false
      (symbolsOf (xs.flatMap fun x => ',' :: print x) ++ .char ']' :: rest) =
        .ok (xs.map f, rest) := by
  induction xs generalizing n with
  | nil =>
    obtain ⟨m, rfl⟩ := Nat.exists_eq_succ_of_ne_zero (Nat.ne_of_gt hn)
    have hspace := dropSpace_char (c := ']') rfl rest
    simp [readItems, moreItems, symbolsOf, hspace, bind, Except.bind]
  | cons x xs ih =>
    obtain ⟨m, rfl⟩ := Nat.exists_eq_succ_of_ne_zero (Nat.ne_of_gt (Nat.zero_lt_of_lt hn))
    obtain ⟨hopens, hone⟩ := h x List.mem_cons_self
    have htail := ih (fun y hy => h y (List.mem_cons_of_mem x hy)) m (by simpa using hn)
    have hmore := moreItems_opens hopens false
      (symbolsOf (xs.flatMap fun x => ',' :: print x) ++ .char ']' :: rest)
    have hvalue := hone _ (endsNumber_items print xs rest)
    simp only [Bool.false_eq_true, if_false, List.singleton_append] at hmore
    rw [List.flatMap_cons, List.cons_append, symbolsOf_cons, symbolsOf_append, List.cons_append,
      List.append_assoc, readItems, hmore]
    simp only [bind, Except.bind, if_true, hvalue, htail, List.map_cons]

theorem length_le_flatMap_comma {α : Type} (print : α → List Char) (xs : List α) :
    xs.length ≤ (xs.flatMap fun x => ',' :: print x).length := by
  induction xs with
  | nil => exact Nat.le_refl _
  | cons x xs ih =>
    simp only [List.flatMap_cons, List.length_cons, List.length_append]
    omega

def listTail {α : Type} (print : α → List Char) : List α → List Char
  | [] => [']']
  | x :: rest => print x ++ rest.flatMap (fun y => ',' :: print y) ++ [']']

theorem printList_eq {α : Type} (print : α → List Char) (xs : List α) :
    printList print xs = '[' :: listTail print xs := by cases xs <;> rfl

/-- Items from after the bracket of a written list on, with the fuel that their reader has. -/
theorem readItems_list {α β : Type} {item : Reader α} {print : β → List Char} {f : β → α}
    {xs : List β} (h : ∀ x ∈ xs, Opens (print x) ∧ Reads item (print x) (f x))
    (rest : List Symbol) :
    let s := symbolsOf (listTail print xs) ++ rest
    readItems item (s.length + 1) true s = .ok (xs.map f, rest) := by
  intro s
  cases xs with
  | nil =>
    have hspace := dropSpace_char (c := ']') rfl rest
    simp [s, listTail, symbolsOf, readItems, moreItems, hspace, bind, Except.bind]
  | cons x xs =>
    obtain ⟨hopens, hone⟩ := h x List.mem_cons_self
    have hmore := moreItems_opens hopens true
      (symbolsOf (xs.flatMap fun x => ',' :: print x) ++ .char ']' :: rest)
    have hvalue := hone _ (endsNumber_items print xs rest)
    have hshape : s = symbolsOf (print x) ++
        (symbolsOf (xs.flatMap fun x => ',' :: print x) ++ .char ']' :: rest) := by
      simp [s, listTail, symbolsOf]
    have hlong := length_le_flatMap_comma print xs
    have hn : xs.length < s.length := by
      rw [hshape]
      simp only [List.length_append, List.length_cons, length_symbolsOf]
      omega
    have htail := readItems_flatMap (fun y hy => h y (List.mem_cons_of_mem x hy)) _ hn rest
    simp only [if_true, List.nil_append] at hmore
    rw [readItems, hshape, hmore]
    rw [hshape] at htail
    simp only [bind, Except.bind, if_true, hvalue, htail, List.map_cons]

theorem reads_list {α β : Type} {item : Reader α} {print : β → List Char} {f : β → α} {xs : List β}
    (h : ∀ x ∈ xs, Opens (print x) ∧ Reads item (print x) (f x)) :
    Reads (decodeList item) (printList print xs) (xs.map f) := by
  intro rest _
  rw [printList_eq, symbolsOf_cons, List.cons_append, decodeList, expecting, dropSpace_char rfl]
  exact readItems_list h rest

/-! ### Records -/

theorem reads_fieldOf {σ α : Type} {read : Reader α} {text : List Char} {x : α}
    (h : Reads read text x) (name : String) (get : σ → Option α) (set : α → σ → σ) :
    Reads (fieldOf name read get set).read text (set x) := by
  intro rest hrest
  have hread := h rest hrest
  simp [fieldOf, hread, bind, Except.bind]

theorem reads_optionalField {σ α : Type} {read : Reader α} {text : List Char} {x : α}
    (h : Reads read text x) (name : String) (get : σ → Option α) (set : α → σ → σ) :
    Reads (optionalField name read get set).read text (set x) := reads_fieldOf h name get set

/-- A member that is a field of the record, not yet read. -/
theorem reads_field {σ : Type} {fields : List (RecordField σ)} {key : String} {f : RecordField σ}
    {state : σ} {put : σ → σ} {text : List Char} (hfind : fields.find? (·.name == key) = some f)
    (hset : f.isSet state = false) (h : Reads f.read text put) :
    Reads (readField fields key state) (':' :: text) (put state) := by
  intro rest hrest
  have hread := h rest hrest
  rw [symbolsOf_cons, List.cons_append]
  simp [readField, hfind, hset, readColon_colon, hread, bind, Except.bind]

theorem reads_record {σ : Type} (name : String) {fields : List (RecordField σ)} {start last : σ}
    {fs : List (String × List Char)} (h : Folds (readField fields) start fs last)
    (hall : (fields.find? fun f => f.required && !f.isSet last) = none) :
    Reads (decodeRecord name fields start) (printObject fs) last := by
  intro rest _
  have hread := readMembers_object h rest
  rw [printObject_eq, symbolsOf_cons, List.cons_append, decodeRecord, dropSpace_char rfl]
  simp only [bind, Except.bind, hread, hall]

theorem reads_finish {σ α : Type} {read : Reader σ} {build : σ → Option α} {text : List Char}
    {x : α} (state : σ) (h : Reads read text state) (hx : build state = some x) :
    Reads (finish read build) text x := by
  intro rest hrest
  have hread := h rest hrest
  simp [finish, hread, hx, bind, Except.bind]

/-- Each of two variants is read back from its name. -/
theorem reads_choice {α : Type} {name name' : String} (hne : name ≠ name') (x y : α) :
    Reads (decodeChoice (name, x) (name', y)) (printString name) x ∧
      Reads (decodeChoice (name, x) (name', y)) (printString name') y := by
  have hvariant : ∀ {written : String} {found : α}, [(name, x), (name', y)].lookup written = some found →
      Reads (decodeChoice (name, x) (name', y)) (printString written) found := by
    intro written found hfound rest _
    have htext := readText_stringTail written rest
    have hspace := dropSpace_char (c := '"') rfl (symbolsOf (stringTail written) ++ rest)
    rw [printString_eq, symbolsOf_cons, List.cons_append, decodeChoice, hspace]
    simp only [readVariant, htext, hfound, bind, Except.bind]
  constructor
  · apply hvariant
    exact List.lookup_cons_self
  · apply hvariant
    rw [List.lookup_cons, beq_eq_false_iff_ne.mpr hne.symm]
    exact List.lookup_cons_self

theorem reads_role (role : Role) : Reads Role.read (printString role.name) role := by
  have hchoice := reads_choice (by decide : "user" ≠ "assistant") Role.user Role.assistant
  cases role with
  | user => exact hchoice.1
  | assistant => exact hchoice.2

def HistoryEntry.settled (e : HistoryEntry) : HistoryEntry := { e with timestamp := e.timestamp.settled }

def GroupMessage.settled (m : GroupMessage) : GroupMessage := { m with timestamp := m.timestamp.settled }

theorem reads_historyEntry (e : HistoryEntry) : Reads HistoryEntry.read e.print e.settled := by
  refine reads_finish (some e.role, some e.content, some e.timestamp.settled)
    (reads_record _ ?_ rfl) rfl
  exact .cons (reads_field rfl rfl (reads_fieldOf (reads_role e.role) _ _ _)) <|
    .cons (reads_field rfl rfl (reads_fieldOf (reads_textAs "a string" e.content) _ _ _)) <|
    .cons (reads_field rfl rfl (reads_fieldOf (reads_stamp e.timestamp) _ _ _)) <| .nil _

theorem reads_groupMessage (m : GroupMessage) : Reads GroupMessage.read m.print m.settled := by
  refine reads_finish (some m.sender, some m.content, some m.timestamp.settled)
    (reads_record _ ?_ rfl) rfl
  exact .cons (reads_field rfl rfl (reads_fieldOf (reads_textAs "a string" m.sender) _ _ _)) <|
    .cons (reads_field rfl rfl (reads_fieldOf (reads_textAs "a string" m.content) _ _ _)) <|
    .cons (reads_field rfl rfl (reads_fieldOf (reads_stamp m.timestamp) _ _ _)) <| .nil _

theorem reads_username (username : Option String) :
    Reads (decodeOption decodeText) ((username.map printString).getD "null".toList) username := by
  intro rest hrest
  cases username with
  | none => rfl
  | some name =>
    have htext := reads_textAs "a string" name rest hrest
    have hspace := dropSpace_char (c := '"') rfl (symbolsOf (stringTail name) ++ rest)
    rw [printString_eq, symbolsOf_cons, List.cons_append] at htext
    simp only [Option.map_some, Option.getD_some, printString_eq, symbolsOf_cons, List.cons_append,
      decodeOption, hspace]
    simp [decodeText, htext, bind, Except.bind]

/-- A user record in JSON, its facts listed in some order. -/
def UserRecord.printListing (r : UserRecord) (listing : List (String × String)) : List Char :=
  printObject [("id", writeInt r.id.toInt),
    ("username", (r.username.map printString).getD "null".toList),
    ("language", printString r.language),
    ("facts", printObject (listing.map fun e => (e.1, printString e.2))),
    ("history", printList HistoryEntry.print r.history),
    ("lastInteraction", printStamp r.lastInteraction)]

def UserRecord.settled (r : UserRecord) : UserRecord :=
  { r with
    history := r.history.map HistoryEntry.settled
    lastInteraction := r.lastInteraction.settled }

theorem reads_userRecord_listing (now : Instant) (r : UserRecord) {listing : List (String × String)}
    (h : listing.Perm r.facts.entries) :
    Reads (UserRecord.read now) (r.printListing listing) r.settled := by
  refine reads_finish ⟨some r.id, some r.username, some r.language, some r.facts,
    some (r.history.map HistoryEntry.settled), some r.lastInteraction.settled⟩
    (reads_record _ ?_ rfl) rfl
  have hhistory : Reads (decodeList HistoryEntry.read) (printList HistoryEntry.print r.history)
      (r.history.map HistoryEntry.settled) :=
    reads_list fun e _ => ⟨opens_printObject _, reads_historyEntry e⟩
  exact .cons (reads_field rfl rfl (reads_fieldOf (reads_id r.id) _ _ _)) <|
    .cons (reads_field rfl rfl (reads_optionalField (reads_username r.username) _ _ _)) <|
    .cons (reads_field rfl rfl (reads_optionalField (reads_textAs "a string" r.language) _ _ _)) <|
    .cons (reads_field rfl rfl (reads_optionalField (reads_facts_listing r.facts h) _ _ _)) <|
    .cons (reads_field rfl rfl (reads_optionalField hhistory _ _ _)) <|
    .cons (reads_field rfl rfl (reads_optionalField (reads_stamp r.lastInteraction) _ _ _)) <| .nil _

theorem reads_userRecord (now : Instant) (r : UserRecord) :
    Reads (UserRecord.read now) r.print r.settled := reads_userRecord_listing now r (.refl _)

theorem reads_count (n : UInt32) : Reads GroupRecord.readCount (Nat.toDigits 10 n.toNat) n := by
  intro rest hrest
  have hsize : n.toNat < UInt32.size := n.toNat_lt
  have hlimit : UInt32.size ≤ wordLimit := by decide
  have hread := reads_natural "u32" 0 (UInt32.size - 1) (by omega)
    (by omega : (n.toNat : Int) ≤ UInt32.size - 1) (by omega) rest hrest
  simp only [GroupRecord.readCount, hread, bind, Except.bind, Int.toNat_natCast, UInt32.ofNat_toNat]

def GroupRecord.settled (r : GroupRecord) : GroupRecord :=
  { r with
    recentMessages := r.recentMessages.map GroupMessage.settled
    addedAt := r.addedAt.settled }

theorem reads_groupRecord (now : Instant) (r : GroupRecord) :
    Reads (GroupRecord.read now) r.print r.settled := by
  refine reads_finish ⟨some r.id, some r.title, some r.membersCount,
    some (r.recentMessages.map GroupMessage.settled), some r.addedAt.settled⟩
    (reads_record _ ?_ rfl) rfl
  have hmessages : Reads (decodeList GroupMessage.read)
      (printList GroupMessage.print r.recentMessages) (r.recentMessages.map GroupMessage.settled) :=
    reads_list fun m _ => ⟨opens_printObject _, reads_groupMessage m⟩
  exact .cons (reads_field rfl rfl (reads_fieldOf (reads_id r.id) _ _ _)) <|
    .cons (reads_field rfl rfl (reads_optionalField (reads_textAs "a string" r.title) _ _ _)) <|
    .cons (reads_field rfl rfl (reads_optionalField (reads_count r.membersCount) _ _ _)) <|
    .cons (reads_field rfl rfl (reads_optionalField hmessages _ _ _)) <|
    .cons (reads_field rfl rfl (reads_optionalField (reads_stamp r.addedAt) _ _ _)) <| .nil _

/-- Whatever the items of a list are read as, the list is written as that one if they are. -/
theorem printList_map {α : Type} {print : α → List Char} {f : α → α} (h : ∀ x, print (f x) = print x)
    (xs : List α) : printList print (xs.map f) = printList print xs := by
  cases xs with
  | nil => rfl
  | cons x xs => simp only [List.map_cons, printList, h, List.flatMap_map]

theorem printStamp_settled (t : Instant) : printStamp t.settled = printStamp t := by
  rw [printStamp, printStamp, Instant.render, Instant.render, t.print_settled]

theorem HistoryEntry.print_settled (e : HistoryEntry) : e.settled.print = e.print := by
  simp only [print, settled, printStamp_settled]

theorem GroupMessage.print_settled (m : GroupMessage) : m.settled.print = m.print := by
  simp only [print, settled, printStamp_settled]

def UserRecord.IsSettled (r : UserRecord) : Prop :=
  (∀ e ∈ r.history, e.timestamp.IsSettled) ∧ r.lastInteraction.IsSettled

def GroupRecord.IsSettled (r : GroupRecord) : Prop :=
  (∀ m ∈ r.recentMessages, m.timestamp.IsSettled) ∧ r.addedAt.IsSettled

theorem map_eq_self_iff {α : Type} {f : α → α} {P : α → Prop} (h : ∀ x, f x = x ↔ P x) (xs : List α) :
    xs.map f = xs ↔ ∀ x ∈ xs, P x := by
  simp only [← h]
  conv_lhs => rhs; rw [← List.map_id xs]
  exact List.map_inj_left

theorem HistoryEntry.settled_eq_self_iff (e : HistoryEntry) :
    e.settled = e ↔ e.timestamp.IsSettled := by
  rw [← e.timestamp.settled_eq_self_iff]
  exact ⟨congrArg timestamp, fun h => congrArg (HistoryEntry.mk e.role e.content) h⟩

theorem GroupMessage.settled_eq_self_iff (m : GroupMessage) :
    m.settled = m ↔ m.timestamp.IsSettled := by
  rw [← m.timestamp.settled_eq_self_iff]
  exact ⟨congrArg timestamp, fun h => congrArg (GroupMessage.mk m.sender m.content) h⟩

/-- What was read once is read as it is. -/
theorem HistoryEntry.settled_settled (e : HistoryEntry) : e.settled.settled = e.settled :=
  e.settled.settled_eq_self_iff.mpr e.timestamp.isSettled_settled

theorem GroupMessage.settled_settled (m : GroupMessage) : m.settled.settled = m.settled :=
  m.settled.settled_eq_self_iff.mpr m.timestamp.isSettled_settled

theorem UserRecord.settled_eq_self_iff (r : UserRecord) : r.settled = r ↔ r.IsSettled := by
  rw [IsSettled, ← map_eq_self_iff HistoryEntry.settled_eq_self_iff,
    ← r.lastInteraction.settled_eq_self_iff]
  constructor
  · exact fun h => ⟨congrArg history h, congrArg lastInteraction h⟩
  · rintro ⟨hhistory, htime⟩
    rw [settled, hhistory, htime]

theorem GroupRecord.settled_eq_self_iff (r : GroupRecord) : r.settled = r ↔ r.IsSettled := by
  rw [IsSettled, ← map_eq_self_iff GroupMessage.settled_eq_self_iff,
    ← r.addedAt.settled_eq_self_iff]
  constructor
  · exact fun h => ⟨congrArg recentMessages h, congrArg addedAt h⟩
  · rintro ⟨hmessages, htime⟩
    rw [settled, hmessages, htime]

/-- Records that are read back as they were written, if their times are settled. -/
class Record.Stable (R : Type) [Record R] where
  settled : R → R
  IsSettled : R → Prop
  reads_print (now : Instant) (r : R) : Reads (Record.read now) (Record.print r) (settled r)
  print_settled (r : R) : Record.print (settled r) = Record.print r
  id_settled (r : R) : Record.id (settled r) = Record.id r
  settled_eq_self_iff (r : R) : settled r = r ↔ IsSettled r

instance : Record.Stable UserRecord where
  settled := UserRecord.settled
  IsSettled := UserRecord.IsSettled
  settled_eq_self_iff := UserRecord.settled_eq_self_iff
  reads_print := reads_userRecord
  print_settled r := by
    show r.settled.print = r.print
    simp only [UserRecord.print, UserRecord.settled, printStamp_settled,
      printList_map HistoryEntry.print_settled]
  id_settled _ := rfl

instance : Record.Stable GroupRecord where
  settled := GroupRecord.settled
  IsSettled := GroupRecord.IsSettled
  settled_eq_self_iff := GroupRecord.settled_eq_self_iff
  reads_print := reads_groupRecord
  print_settled r := by
    show r.settled.print = r.print
    simp only [GroupRecord.print, GroupRecord.settled, printStamp_settled,
      printList_map GroupMessage.print_settled]
  id_settled _ := rfl

theorem readAll_of_reads {α : Type} {read : Reader α} {text : List Char} {x : α}
    (h : Reads read text x) : readAll read (symbolsOfOctets (utf8 text)) = .ok x := by
  have hread := h [] endsNumber_nil
  rw [List.append_nil] at hread
  rw [symbolsOfOctets_utf8, readAll, hread]
  rfl

namespace Record

variable {R : Type} [Record R] [Stable R]

/-- A record is read back from the octets in which it is stored. -/
theorem decode_encode (now : Instant) (r : R) : decode now (encode r) = .ok (Stable.settled r) :=
  readAll_of_reads (Stable.reads_print now r)

theorem encode_settled (r : R) : encode (Stable.settled r) = encode r :=
  congrArg utf8 (Stable.print_settled r)

/-- Records that are read as the same record are written the same. -/
theorem encode_congr {r r' : R} (h : Stable.settled r = Stable.settled r') : encode r = encode r' := by
  rw [← encode_settled r, h, encode_settled]

end Record

end Companion
