import Companion.Proofs.RecordText
import Companion.Proofs.Skipping
import Mathlib.Data.List.Induction

/-!
What readers yield. What holds of every part that is read holds of the whole: of a list if it holds of
the items, of a record if it holds of the fields. Leap seconds are read at the end of a minute only, so
the times in what is read are settled, and those that are missing are if the clock is.
-/

namespace Companion

open Number Text Time Json

/-! ### Timestamps -/

namespace Time

theorem digitValue_lt {c : Char} (h : c.isDigit = true) : digitValue c < 10 := by
  simp only [Char.isDigit, ge_iff_le, Bool.and_eq_true, decide_eq_true_eq, UInt32.le_iff_toNat_le] at h
  have hlast : c.toNat ≤ 57 := h.2
  unfold digitValue
  omega

theorem ofDigits_lt {ds : List Char} (hds : ∀ c ∈ ds, c.isDigit = true) :
    ofDigits ds < 10 ^ ds.length := by
  induction ds using List.reverseRecOn with
  | nil => decide
  | append_singleton ds c ih =>
    have hfront := ih fun d hd => hds d (List.mem_append_left _ hd)
    have hlast := digitValue_lt (hds c (by simp))
    rw [ofDigits_append, List.length_append, List.length_singleton, Nat.pow_succ]
    simp only [List.foldl_cons, List.foldl_nil]
    omega

theorem stampNumber_lt {width n : Nat} {cs rest : List Char}
    (h : stampNumber width cs = .ok (n, rest)) :
    n < 10 ^ (cs.length - rest.length) ∧ cs.length - rest.length ≤ width := by
  unfold stampNumber at h
  dsimp only at h
  have hds : ∀ c ∈ (cs.take width).takeWhile Char.isDigit, c.isDigit = true :=
    fun c hc => (List.all_eq_true.mp List.all_takeWhile) c hc
  have hlength := (List.takeWhile_sublist Char.isDigit (l := cs.take width)).length_le
  rw [List.length_take] at hlength
  generalize (cs.take width).takeWhile Char.isDigit = ds at h hds hlength
  split_ifs at h
  obtain ⟨rfl, rfl⟩ := Prod.mk.inj (Except.ok.inj h)
  have htaken : cs.length - (cs.drop ds.length).length = ds.length := by
    rw [List.length_drop]
    omega
  rw [htaken]
  exact ⟨ofDigits_lt hds, by omega⟩

theorem stampFraction_lt {cs rest : List Char} {nano : Nat}
    (h : stampFraction cs = .ok (nano, rest)) : nano < nanosPerSecond := by
  unfold stampFraction at h
  split at h
  · obtain ⟨⟨n, left⟩, hread, h⟩ := bind_eq_ok h
    obtain ⟨rfl, -⟩ := Prod.mk.inj (Except.ok.inj h)
    obtain ⟨hn, hwidth⟩ := stampNumber_lt hread
    generalize _ - left.length = k at hn hwidth
    calc n * 10 ^ (9 - k) < 10 ^ k * 10 ^ (9 - k) :=
          Nat.mul_lt_mul_of_pos_right hn (Nat.pow_pos (by decide))
      _ = nanosPerSecond := by rw [← Nat.pow_add, Nat.add_sub_cancel' hwidth]; rfl
  · obtain ⟨rfl, -⟩ := Prod.mk.inj (Except.ok.inj h)
    decide

theorem signedOffset_minutes {negative : Bool} {cs rest : List Char} {offset : Int}
    (h : signedOffset negative cs = .ok (offset, rest)) : offset % 60 = 0 := by
  obtain ⟨⟨hours, s⟩, -, h⟩ := bind_eq_ok h
  obtain ⟨⟨minutes, s⟩, -, h⟩ := bind_eq_ok h
  obtain ⟨rfl, -⟩ := Prod.mk.inj (Except.ok.inj h)
  split <;> omega

/-- Offsets are whole minutes. -/
theorem stampOffset_minutes {cs rest : List Char} {offset : Int}
    (h : stampOffset cs = .ok (offset, rest)) : offset % 60 = 0 := by
  unfold stampOffset at h
  split at h
  · cases h
  · split_ifs at h
    · obtain ⟨rfl, -⟩ := Prod.mk.inj (Except.ok.inj h)
      rfl
    · obtain ⟨rfl, -⟩ := Prod.mk.inj (Except.ok.inj h)
      rfl
    · exact signedOffset_minutes h
    · exact signedOffset_minutes h

theorem fromLocal_eq_ok {date : Date} {second nano : Nat} {offset : Int} {t : Instant}
    (h : fromLocal date second nano offset = .ok t) :
    t.second = (((second : Int) - offset) % secondsPerDay).toNat ∧ t.nano = nano := by
  unfold fromLocal at h
  dsimp only at h
  split at h
  · next hmoment =>
    obtain rfl := Except.ok.inj h
    obtain ⟨day, -, hday⟩ := Option.bind_eq_some_iff.mp hmoment
    unfold Instant.of? at hday
    split_ifs at hday
    obtain rfl := Option.some.inj hday
    exact ⟨rfl, rfl⟩
  · cases h

/-- A leap second is read at the end of a minute only. -/
theorem parseStamp_isSettled {cs : List Char} {t : Instant} (h : parseStamp cs = .ok t) :
    t.IsSettled := by
  unfold parseStamp at h
  obtain ⟨⟨year, s⟩, -, h⟩ := bind_eq_ok h
  obtain ⟨s, -, h⟩ := bind_eq_ok h
  obtain ⟨⟨month, s⟩, -, h⟩ := bind_eq_ok h
  obtain ⟨s, -, h⟩ := bind_eq_ok h
  obtain ⟨⟨day, s⟩, -, h⟩ := bind_eq_ok h
  obtain ⟨s, -, h⟩ := bind_eq_ok h
  obtain ⟨⟨hour, s⟩, -, h⟩ := bind_eq_ok h
  obtain ⟨s, -, h⟩ := bind_eq_ok h
  obtain ⟨⟨minute, s⟩, -, h⟩ := bind_eq_ok h
  obtain ⟨s, -, h⟩ := bind_eq_ok h
  obtain ⟨⟨second, s⟩, -, h⟩ := bind_eq_ok h
  obtain ⟨⟨fraction, s⟩, hfraction, h⟩ := bind_eq_ok h
  obtain ⟨⟨offset, s⟩, hoffset, h⟩ := bind_eq_ok h
  have hnano := stampFraction_lt hfraction
  have hminutes := stampOffset_minutes hoffset
  dsimp only at h
  split at h
  · cases h
  · split at h
    · cases h
    · split at h
      · obtain ⟨hsecond, hread⟩ := fromLocal_eq_ok h
        by_cases hleap : second = 60
        · right
          rw [if_pos hleap] at hsecond
          rw [hsecond, secondsPerDay]
          omega
        · left
          rw [hread, if_neg hleap]
          exact hnano
      · cases h

end Time

/-! ### Readers -/

/-- Whatever the reader takes off the front of a text has a property. -/
def Yields {α : Type} (read : Reader α) (P : α → Prop) : Prop :=
  ∀ s x rest, read s = .ok (x, rest) → P x

section Parts

variable {α σ : Type} {P : σ → Prop} {Q : α → Prop}

theorem yields_any (read : Reader α) : Yields read fun _ => True := fun _ _ _ _ => trivial

theorem yields_readAll {read : Reader α} {s : List Symbol} {x : α} (hread : Yields read Q)
    (h : readAll read s = .ok x) : Q x := by
  obtain ⟨⟨y, rest⟩, hy, h⟩ := bind_eq_ok h
  obtain ⟨-, -, h⟩ := bind_eq_ok h
  obtain rfl := Except.ok.inj h
  exact hread _ _ _ hy

/-- What every member of an object keeps holds once all of them are read. -/
theorem yields_members {member : String → σ → Reader σ}
    (hmember : ∀ key state, P state → Yields (member key state) P) {n : Nat} {first : Bool} {state : σ}
    (hstart : P state) : Yields (readMembers member n first state) P := by
  induction n generalizing first state with
  | zero => exact fun _ _ _ h => nomatch h
  | succ n ih =>
    intro s last rest h
    rw [readMembers] at h
    obtain ⟨⟨more, t⟩, -, h⟩ := bind_eq_ok h
    cases more with
    | false =>
      obtain ⟨rfl, -⟩ := Prod.mk.inj (Except.ok.inj h)
      exact hstart
    | true =>
      obtain ⟨⟨key, u⟩, -, h⟩ := bind_eq_ok h
      obtain ⟨⟨next, v⟩, hnext, h⟩ := bind_eq_ok h
      exact ih (hmember key state hstart _ _ _ hnext) _ _ _ h

theorem yields_items {item : Reader α} (hitem : Yields item Q) {n : Nat} {first : Bool} :
    Yields (readItems item n first) fun xs => ∀ x ∈ xs, Q x := by
  induction n generalizing first with
  | zero => exact fun _ _ _ h => nomatch h
  | succ n ih =>
    intro s xs rest h
    rw [readItems] at h
    obtain ⟨⟨more, t⟩, -, h⟩ := bind_eq_ok h
    cases more with
    | false =>
      obtain ⟨rfl, -⟩ := Prod.mk.inj (Except.ok.inj h)
      exact List.forall_mem_nil _
    | true =>
      obtain ⟨⟨x, u⟩, hx, h⟩ := bind_eq_ok h
      obtain ⟨⟨ys, v⟩, hys, h⟩ := bind_eq_ok h
      obtain ⟨rfl, -⟩ := Prod.mk.inj (Except.ok.inj h)
      exact List.forall_mem_cons.mpr ⟨hitem _ _ _ hx, ih _ _ _ hys⟩

theorem yields_expecting {opener : Char} {expected : String} {read : Reader α} (hread : Yields read Q) :
    Yields (expecting opener expected read) Q := by
  intro s x rest h
  unfold expecting at h
  split at h
  · cases h
  · split at h
    · exact hread _ _ _ h
    · cases h

theorem yields_list {item : Reader α} (hitem : Yields item Q) :
    Yields (decodeList item) fun xs => ∀ x ∈ xs, Q x :=
  yields_expecting fun _ => yields_items hitem _

/-- What putting any field in its place keeps holds of a record under construction. -/
theorem yields_record {name : String} {fields : List (RecordField σ)} {start : σ} (hstart : P start)
    (hfields : ∀ f ∈ fields, Yields f.read fun put => ∀ state, P state → P (put state)) :
    Yields (decodeRecord name fields start) P := by
  have hlist : ∀ {expected done state s last rest}, P state →
      readFields expected fields done state s = .ok (last, rest) → P last := by
    intro expected done state s last rest hstate h
    induction fields generalizing done state s with
    | nil =>
      rw [readFields] at h
      obtain ⟨t, -, h⟩ := bind_eq_ok h
      obtain ⟨rfl, -⟩ := Prod.mk.inj (Except.ok.inj h)
      exact hstate
    | cons f fields ih =>
      rw [readFields] at h
      obtain ⟨hf, hrest⟩ := List.forall_mem_cons.mp hfields
      obtain ⟨⟨more, t⟩, -, h⟩ := bind_eq_ok h
      dsimp only at h
      split_ifs at h
      · obtain ⟨⟨put, u⟩, hput, h⟩ := bind_eq_ok h
        exact ih hrest (hf _ _ _ hput state hstate) h
      · exact ih hrest hstate h
  have hmember : ∀ key state, P state → Yields (readField fields key state) P := by
    intro key state hstate s last rest h
    unfold readField at h
    split at h
    · next f hfind =>
      split_ifs at h
      obtain ⟨t, -, h⟩ := bind_eq_ok h
      obtain ⟨⟨put, u⟩, hput, h⟩ := bind_eq_ok h
      obtain ⟨rfl, -⟩ := Prod.mk.inj (Except.ok.inj h)
      exact hfields f (List.mem_of_find?_eq_some hfind) _ _ _ hput state hstate
    · obtain ⟨t, -, h⟩ := bind_eq_ok h
      obtain ⟨u, -, h⟩ := bind_eq_ok h
      obtain ⟨rfl, -⟩ := Prod.mk.inj (Except.ok.inj h)
      exact hstate
  intro s last rest h
  unfold decodeRecord at h
  split at h
  · cases h
  · exact hlist hstart h
  · obtain ⟨⟨state, t⟩, hread, h⟩ := bind_eq_ok h
    have hstate := yields_members hmember hstart _ _ _ hread
    dsimp only at h
    split at h
    · cases h
    · obtain ⟨rfl, -⟩ := Prod.mk.inj (Except.ok.inj h)
      exact hstate
  · cases h

theorem yields_field {name : String} {read : Reader α} {get : σ → Option α} {set : α → σ → σ}
    (hread : Yields read Q) (hset : ∀ x, Q x → ∀ state, P state → P (set x state)) :
    Yields (fieldOf name read get set).read fun put => ∀ state, P state → P (put state) := by
  intro s put rest h
  obtain ⟨⟨x, t⟩, hx, h⟩ := bind_eq_ok h
  obtain ⟨rfl, -⟩ := Prod.mk.inj (Except.ok.inj h)
  exact hset x (hread _ _ _ hx)

theorem yields_optionalField {name : String} {read : Reader α} {get : σ → Option α} {set : α → σ → σ}
    (hread : Yields read Q) (hset : ∀ x, Q x → ∀ state, P state → P (set x state)) :
    Yields (optionalField name read get set).read fun put => ∀ state, P state → P (put state) :=
  (yields_field hread hset : Yields (fieldOf name read get set).read _)

theorem yields_finish {read : Reader σ} {build : σ → Option α} (hread : Yields read P)
    (hbuild : ∀ state x, P state → build state = some x → Q x) : Yields (finish read build) Q := by
  intro s x rest h
  obtain ⟨⟨state, t⟩, hstate, h⟩ := bind_eq_ok h
  dsimp only at h
  split at h
  · next hx =>
    obtain ⟨rfl, -⟩ := Prod.mk.inj (Except.ok.inj h)
    exact hbuild state _ (hread _ _ _ hstate) hx
  · cases h

end Parts

/-! ### Times in what is read -/

theorem yields_stamp : Yields readStamp Instant.IsSettled := by
  intro s t rest h
  obtain ⟨⟨text, u⟩, -, h⟩ := bind_eq_ok h
  dsimp only at h
  split at h
  · next hparse =>
    obtain ⟨rfl, -⟩ := Prod.mk.inj (Except.ok.inj h)
    exact parseStamp_isSettled hparse
  · cases h

/-- An entry is read from two fields and the time, which is the one that it then has. -/
theorem yields_entry {α β γ : Type} {name key key' : String} {read : Reader α} {read' : Reader β}
    {build : Found3 α β Instant → Option γ} (time : γ → Instant)
    (hbuild : ∀ d x, build d = some x → d.2.2 = some (time x)) :
    Yields (finish (decodeRecord name
      [fieldOf key read (·.1) (fun x s => (some x, s.2)),
        fieldOf key' read' (·.2.1) (fun x s => (s.1, some x, s.2.2)),
        fieldOf "timestamp" readStamp (·.2.2) (fun x s => (s.1, s.2.1, some x))]
      ((none, none, none) : Found3 α β Instant)) build) fun x => (time x).IsSettled := by
  refine yields_finish (P := fun d : Found3 α β Instant => ∀ t, d.2.2 = some t → t.IsSettled)
    (yields_record (fun _ h => nomatch h) ?_) fun d x hd hx => hd _ (hbuild d x hx)
  simp only [List.forall_mem_cons]
  refine ⟨?_, ?_, ?_, List.forall_mem_nil _⟩
  · exact yields_field (yields_any _) fun _ _ _ h => h
  · exact yields_field (yields_any _) fun _ _ _ h => h
  · exact yields_field yields_stamp fun t ht _ _ _ h => Option.some.inj h ▸ ht

theorem yields_historyEntry : Yields HistoryEntry.read fun e => e.timestamp.IsSettled := by
  refine yields_entry HistoryEntry.timestamp fun d e hbuild => ?_
  split at hbuild
  · obtain rfl := Option.some.inj hbuild
    rfl
  · cases hbuild

theorem yields_groupMessage : Yields GroupMessage.read fun m => m.timestamp.IsSettled := by
  refine yields_entry GroupMessage.timestamp fun d m hbuild => ?_
  split at hbuild
  · obtain rfl := Option.some.inj hbuild
    rfl
  · cases hbuild

/-- The times in a record that is read are settled, if the clock is. -/
theorem yields_userRecord {now : Instant} (hnow : now.IsSettled) :
    Yields (UserRecord.read now) UserRecord.IsSettled := by
  refine yields_finish (P := fun d => (∀ es, d.history = some es → ∀ e ∈ es, e.timestamp.IsSettled) ∧
    ∀ t, d.lastInteraction = some t → t.IsSettled)
    (yields_record ⟨fun _ h => (nomatch h), fun _ h => nomatch h⟩ ?_) ?_
  · simp only [UserRecord.fields, List.forall_mem_cons]
    refine ⟨?_, ?_, ?_, ?_, ?_, ?_, List.forall_mem_nil _⟩
    · exact yields_field (yields_any _) fun _ _ _ h => h
    · exact yields_optionalField (yields_any _) fun _ _ _ h => h
    · exact yields_optionalField (yields_any _) fun _ _ _ h => h
    · exact yields_optionalField (yields_any _) fun _ _ _ h => h
    · exact yields_optionalField (yields_list yields_historyEntry) fun es hes _ h =>
        ⟨fun _ hsome => Option.some.inj hsome ▸ hes, h.2⟩
    · exact yields_optionalField yields_stamp fun t ht _ h =>
        ⟨h.1, fun _ hsome => Option.some.inj hsome ▸ ht⟩
  · rintro d r ⟨hhistory, htime⟩ hbuild
    obtain ⟨id, -, rfl⟩ := Option.map_eq_some_iff.mp hbuild
    constructor
    · cases hes : d.history with
      | none => simp
      | some es => exact hhistory es hes
    · cases ht : d.lastInteraction with
      | none => exact hnow
      | some t => exact htime t ht

theorem yields_groupRecord {now : Instant} (hnow : now.IsSettled) :
    Yields (GroupRecord.read now) GroupRecord.IsSettled := by
  refine yields_finish (P := fun d =>
    (∀ ms, d.recentMessages = some ms → ∀ m ∈ ms, m.timestamp.IsSettled) ∧
      ∀ t, d.addedAt = some t → t.IsSettled)
    (yields_record ⟨fun _ h => (nomatch h), fun _ h => nomatch h⟩ ?_) ?_
  · simp only [GroupRecord.fields, List.forall_mem_cons]
    refine ⟨?_, ?_, ?_, ?_, ?_, List.forall_mem_nil _⟩
    · exact yields_field (yields_any _) fun _ _ _ h => h
    · exact yields_optionalField (yields_any _) fun _ _ _ h => h
    · exact yields_optionalField (yields_any _) fun _ _ _ h => h
    · exact yields_optionalField (yields_list yields_groupMessage) fun ms hms _ h =>
        ⟨fun _ hsome => Option.some.inj hsome ▸ hms, h.2⟩
    · exact yields_optionalField yields_stamp fun t ht _ h =>
        ⟨h.1, fun _ hsome => Option.some.inj hsome ▸ ht⟩
  · rintro d r ⟨hmessages, htime⟩ hbuild
    obtain ⟨id, -, rfl⟩ := Option.map_eq_some_iff.mp hbuild
    constructor
    · cases hms : d.recentMessages with
      | none => simp
      | some ms => exact hmessages ms hms
    · cases ht : d.addedAt with
      | none => exact hnow
      | some t => exact htime t ht

end Companion
