import Companion.Proofs.Loading
import Companion.Proofs.Yields
import Companion.Turn.Event

/-!
What is saved is what is loaded. Each type with a JSON form is read back from what is written for it,
and so a record that is saved is found again as it was, on any backend that works. Only leap seconds
within a minute make an exception: they are written as the seconds after them. Whatever octets a value
was read from, writing it and reading it again changes nothing.
-/

namespace Companion

open Number Text Time Json

/-! ### Events and lines -/

theorem reads_boolean (b : Bool) :
    Reads decodeBool (if b then "true".toList else "false".toList) b := by
  intro rest _
  cases b with
  | true =>
    have hspace := dropSpace_char (c := 't') rfl (symbolsOf "rue".toList ++ rest)
    have hword : readWord "rue".toList (symbolsOf "rue".toList ++ rest) = .ok rest := rfl
    show decodeBool (.char 't' :: (symbolsOf "rue".toList ++ rest)) = _
    rw [decodeBool, hspace]
    simp only [if_true, hword, bind, Except.bind]
  | false =>
    have hspace := dropSpace_char (c := 'f') rfl (symbolsOf "alse".toList ++ rest)
    have hword : readWord "alse".toList (symbolsOf "alse".toList ++ rest) = .ok rest := rfl
    have hother : Symbol.char 'f' ≠ .char 't' := by decide
    show decodeBool (.char 'f' :: (symbolsOf "alse".toList ++ rest)) = _
    rw [decodeBool, hspace]
    simp only [if_neg hother, if_true, hword, bind, Except.bind]

theorem reads_chatKind (kind : ChatKind) : Reads ChatKind.read (printString kind.name) kind := by
  have hchoice := reads_choice (by decide : "private" ≠ "group") ChatKind.direct ChatKind.group
  cases kind with
  | direct => exact hchoice.1
  | group => exact hchoice.2

theorem reads_event (e : Event) : Reads Event.read e.print e := by
  refine reads_finish ⟨some e.chat, some e.sender, some e.senderName, some e.text, some e.kind,
    some e.addressed⟩ (reads_record _ ?_ rfl) rfl
  exact .cons (reads_field rfl rfl (reads_fieldOf (reads_id e.chat) _ _ _)) <|
    .cons (reads_field rfl rfl (reads_fieldOf (reads_id e.sender) _ _ _)) <|
    .cons (reads_field rfl rfl (reads_fieldOf (reads_textAs "a string" e.senderName) _ _ _)) <|
    .cons (reads_field rfl rfl (reads_fieldOf (reads_textAs "a string" e.text) _ _ _)) <|
    .cons (reads_field rfl rfl (reads_fieldOf (reads_chatKind e.kind) _ _ _)) <|
    .cons (reads_field rfl rfl (reads_fieldOf (reads_boolean e.addressed) _ _ _)) <| .nil _

theorem reads_line (l : Line) : Reads Line.read l.print l := by
  refine reads_finish (some l.speaker, some l.content) (reads_record _ ?_ rfl) rfl
  exact .cons (reads_field rfl rfl (reads_fieldOf (reads_role l.speaker) _ _ _)) <|
    .cons (reads_field rfl rfl (reads_fieldOf (reads_textAs "a string" l.content) _ _ _)) <| .nil _

/-! ### Round trips -/

def decodeWith {α : Type} (read : Instant → Reader α) (now : Instant) (octets : Octets) :
    Except Fault α :=
  readAll (read now) (symbolsOfOctets octets)

/-- What is written for a value is read at any time as one that is written the same, and that is the
value itself just if its times are settled. And octets that hold a value, or none, hold the same after
the value was read, written and read again, where a clock fills in for missing times that is settled. -/
structure RoundTrips {α : Type} (print : α → List Char) (read : Instant → Reader α) (settled : α → α)
    (IsSettled : α → Prop) : Prop where
  written : ∀ (now : Instant) (x : α), decodeWith read now (utf8 (print x)) = .ok (settled x)
  same : ∀ x : α, print (settled x) = print x
  equal : ∀ x : α, settled x = x ↔ IsSettled x
  again : ∀ (now later : Instant) (octets : Octets), now.IsSettled →
    (decodeWith read now octets >>= fun x => decodeWith read later (utf8 (print x))) =
      decodeWith read now octets

section RoundTrips

variable {α : Type} {print : α → List Char} {read : Instant → Reader α} {settled : α → α}
  {IsSettled : α → Prop}

theorem RoundTrips.of_reads (h : ∀ now x, Reads (read now) (print x) (settled x))
    (hsame : ∀ x, print (settled x) = print x) (hequal : ∀ x, settled x = x ↔ IsSettled x)
    (hyields : ∀ now : Instant, now.IsSettled → Yields (read now) IsSettled) :
    RoundTrips print read settled IsSettled where
  written now x := readAll_of_reads (h now x)
  same := hsame
  equal := hequal
  again now later octets hnow := by
    cases hread : decodeWith read now octets with
    | error f => rfl
    | ok x =>
      have hx : settled x = x := (hequal x).mpr (yields_readAll (hyields now hnow) hread)
      have hback := readAll_of_reads (h later x)
      rwa [hx] at hback

/-- A type without times makes no exception. -/
theorem RoundTrips.timeless {read : Reader α} (h : ∀ x, Reads read (print x) x) :
    RoundTrips print (fun _ => read) id fun _ => True :=
  .of_reads (fun _ => h) (fun _ => rfl) (fun _ => iff_of_true rfl trivial) fun _ _ => yields_any read

end RoundTrips

/-! ### The store -/

/-- Every write goes through, and so does reading the slot afterwards. -/
def Works {σ : Type} [Backend σ] (s : σ) : Prop :=
  ∀ (slot : Address) (data : Octets), (Backend.write slot data s).1 = .ok () ∧
    ∃ found, (Backend.read slot (Backend.write slot data s).2).1 = .ok found

theorem works_memory (m : Memory) : Works m := fun _ _ => ⟨rfl, _, rfl⟩

/-- A database works once it was opened, as that makes the table if it is missing. -/
theorem works_opened (checksums : Bool) (contents : Contents) :
    Works (Database.opened checksums contents) := fun _ _ => ⟨rfl, _, rfl⟩

namespace Store

variable {σ : Type} [Backend σ] {R : Type} [Record R]

/-- Saving a record goes through, and a record is then found in its place. -/
def Keeps (s : Store σ) (now : Instant) (r found : R) : Prop :=
  (s.trySave r).1 = .ok () ∧ ((s.trySave r).2.getOrCreate R now (Record.id r)).1 = ⟨found, .found⟩

/-- A store on a backend that works keeps every record. -/
theorem keeps_of_works [Faithful σ] [Record.Stable R] {s : Store σ} (h : Works s.slots)
    (now : Instant) (r : R) : s.Keeps now r (Record.Stable.settled r) := by
  obtain ⟨hanswer, hslots⟩ := trySave_write s r
  obtain ⟨hwrite, found, hread⟩ := h (address R (Record.id r)) (Record.encode r)
  have hfound : found = some (Record.encode r) := by
    rw [Faithful.read_ok hread, Faithful.write_ok hwrite, Function.update_self]
  rw [hfound, ← hslots] at hread
  exact ⟨hanswer.trans hwrite, getOrCreate_found hread (Record.decode_encode now r)⟩

end Store

/-- Whatever has a JSON form is read back from it, leap seconds within a minute apart. That holds too for
user records whose facts are listed in another order. And a store on a backend that works finds the
records that it saved. -/
theorem saved_is_loaded :
    (RoundTrips UserRecord.print UserRecord.read UserRecord.settled UserRecord.IsSettled ∧
      RoundTrips GroupRecord.print GroupRecord.read GroupRecord.settled GroupRecord.IsSettled ∧
      RoundTrips HistoryEntry.print (fun _ => HistoryEntry.read) HistoryEntry.settled
        (fun e => e.timestamp.IsSettled) ∧
      RoundTrips GroupMessage.print (fun _ => GroupMessage.read) GroupMessage.settled
        (fun m => m.timestamp.IsSettled) ∧
      RoundTrips Event.print (fun _ => Event.read) id (fun _ => True) ∧
      RoundTrips Line.print (fun _ => Line.read) id fun _ => True) ∧
    (∀ (now : Instant) (r : UserRecord) (listing : List (String × String)),
      listing.Perm r.facts.entries →
        Record.decode now (utf8 (r.printListing listing)) = .ok r.settled) ∧
    ∀ (σ : Type) [Backend σ] [Faithful σ] (s : Store σ), Works s.slots → ∀ now : Instant,
      (∀ r : UserRecord, s.Keeps now r r.settled ∧ (r.IsSettled → s.Keeps now r r)) ∧
        ∀ r : GroupRecord, s.Keeps now r r.settled ∧ (r.IsSettled → s.Keeps now r r) := by
  refine ⟨⟨?_, ?_, ?_, ?_, ?_, ?_⟩, ?_, ?_⟩
  · exact .of_reads reads_userRecord Record.Stable.print_settled UserRecord.settled_eq_self_iff
      fun _ => yields_userRecord
  · exact .of_reads reads_groupRecord Record.Stable.print_settled GroupRecord.settled_eq_self_iff
      fun _ => yields_groupRecord
  · exact .of_reads (fun _ => reads_historyEntry) HistoryEntry.print_settled
      HistoryEntry.settled_eq_self_iff fun _ _ => yields_historyEntry
  · exact .of_reads (fun _ => reads_groupMessage) GroupMessage.print_settled
      GroupMessage.settled_eq_self_iff fun _ _ => yields_groupMessage
  · exact .timeless reads_event
  · exact .timeless reads_line
  · intro now r listing hlisting
    exact readAll_of_reads (reads_userRecord_listing now r hlisting)
  · intro σ _ _ s hworks now
    refine ⟨fun r => ?_, fun r => ?_⟩
    · have hkeeps : s.Keeps now r r.settled := s.keeps_of_works hworks now r
      exact ⟨hkeeps, fun hr => (r.settled_eq_self_iff.mpr hr).subst hkeeps⟩
    · have hkeeps : s.Keeps now r r.settled := s.keeps_of_works hworks now r
      exact ⟨hkeeps, fun hr => (r.settled_eq_self_iff.mpr hr).subst hkeeps⟩

/-- The leap second at the end of 2016, half over. -/
def leapSecond : Instant := ⟨⟨2016, 12, 31, by decide⟩, 86399, 1500000000, by decide⟩

/-- A user record with characters that are escaped, a negative identifier and a leap second. -/
def quotedUser : UserRecord where
  id := -100123
  username := some "A \"quoted\" name"
  language := "en"
  facts := (Table.empty.insert "pet" "a cat\n").insert "city" "C:\\"
  history := [⟨.assistant, "hello", leapSecond⟩]
  lastInteraction := leapSecond

/-- A user record of little text, its fields in another order than they are written, some of them missing. -/
def sparseUser : Octets := utf8 "\x7b\"language\":\"fr\",\"id\":-7\x7d".toList

theorem quotedUser_is_loaded :
    (Record.decode leapSecond
          (utf8 (quotedUser.printListing [("pet", "a cat\n"), ("city", "C:\\")])) = .ok quotedUser ∧
        ({ slots := Database.opened true none } : Store Database).Keeps leapSecond quotedUser
          quotedUser) ∧
      (decodeWith UserRecord.read leapSecond sparseUser >>= fun r =>
          decodeWith UserRecord.read lastInstant (utf8 r.print)) =
        .ok ⟨-7, none, "fr", .empty, [], leapSecond⟩ := by
  obtain ⟨⟨hround, _⟩, hlisted, hkept⟩ := saved_is_loaded
  have hentries : quotedUser.facts.entries = [("city", "C:\\"), ("pet", "a cat\n")] := by decide
  have hswap : [("pet", "a cat\n"), ("city", "C:\\")].Perm quotedUser.facts.entries := by
    rw [hentries]
    exact List.Perm.swap ..
  have hsettled : quotedUser.IsSettled := ⟨by decide, by decide⟩
  refine ⟨⟨(hlisted _ _ _ hswap).trans (congrArg _ (quotedUser.settled_eq_self_iff.mpr hsettled)),
    ((hkept Database _ (works_opened true none) leapSecond).1 quotedUser).2 hsettled⟩, ?_⟩
  rw [hround.again leapSecond lastInstant sparseUser (by decide), decodeWith, sparseUser,
    symbolsOfOctets_utf8]
  decide +kernel

/-- A record with a leap second that no minute ends with. -/
def hastyUser : UserRecord := ⟨5, none, "en", .empty, [], hastySecond⟩

/-- Such a leap second, as in a record that is read when a clock shows it, is found again as the second
after it. -/
theorem hastyUser_is_displaced :
    decodeWith UserRecord.read hastySecond (utf8 "\x7b\"id\":5\x7d".toList) = .ok hastyUser ∧
      ({ slots := Database.opened true none } : Store Database).Keeps leapSecond hastyUser
        { hastyUser with lastInteraction := ⟨⟨2024, 1, 1, by decide⟩, 1, 500000000, by decide⟩ } ∧
      ¬ ∀ (now : Instant) (r : UserRecord), Record.decode now (Record.encode r) = .ok r := by
  refine ⟨?_, Store.keeps_of_works (works_opened true none) leapSecond hastyUser, fun hsame => ?_⟩
  · rw [decodeWith, symbolsOfOctets_utf8]
    decide +kernel
  · have hread := (Record.decode_encode leapSecond hastyUser).symm.trans (hsame leapSecond hastyUser)
    have hsettled : hastyUser.IsSettled := hastyUser.settled_eq_self_iff.mp (Except.ok.inj hread)
    exact absurd hsettled.2 (by decide)

/-- Octets may hold a record in other ways than it is written: its fields in another order, some of them
missing, a timestamp with an offset. -/
example : Record.decode leapSecond (utf8
    "\x7b\"lastInteraction\":\"2024-01-01t02:00:00+02:00\",\"id\":-7\x7d".toList) =
      .ok (⟨-7, none, "en", .empty, [], ⟨⟨2024, 1, 1, by decide⟩, 0, 0, by decide⟩⟩ :
        UserRecord) := by
  rw [Record.decode, symbolsOfOctets_utf8]
  decide +kernel

end Companion
