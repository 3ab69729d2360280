import Companion.Proofs.Mirrors
import Companion.Proofs.Rotation

/-!
Stored checksums. A row has its checksum, or none, from the call that wrote it, and keeps it wherever
the row goes: aside into another namespace, into a backup, and back from there. So a logbook of what was
last written where, and of whether checksums were on then, tells every row of a database and of the
files beside it, after any run and under any settings that came and went on the way. Each stored
checksum is then that of the octets beside it, and nothing is reported of a row that is read.
-/

namespace Companion

open Text Time

/-! ### Notes of writes -/

structure Note where
  data : Octets
  summed : Bool
  deriving DecidableEq, Repr

def Note.row (note : Note) : Row :=
  ⟨note.data, if note.summed then some (Checksum.render note.data) else none⟩

/-- What was last written to each slot of a database, where anything lies there now. -/
abbrev Notes := Address → Option Note

namespace Notes

def blank : Notes := fun _ => none

/-- The notes after a call, by the answer to it and by whether checksums were on. -/
def after (summed : Bool) (call : SlotCall) (answer : SlotAnswer) (notes : Notes) : Notes :=
  match call, answer with
  | .write slot data, .write (.ok _) => Function.update notes slot (some ⟨data, summed⟩)
  | .remove slot, .remove (.ok _) => Function.update notes slot none
  | .quarantine slot space, .quarantine (.ok (some key)) =>
    Function.update (Function.update notes ⟨space, key⟩ (notes slot)) slot none
  | _, _ => notes

def Tell (notes : Notes) (rows : Rows) : Prop := ∀ slot, rows.get? slot = (notes slot).map Note.row

def TellContents (notes : Notes) (contents : Contents) : Prop :=
  ∃ rows, contents = some rows ∧ notes.Tell rows

theorem tell_blank : blank.Tell .empty := fun _ => rfl

variable {notes : Notes} {rows : Rows}

theorem Tell.insert (h : notes.Tell rows) (slot : Address) (note : Note) :
    Tell (Function.update notes slot (some note)) (rows.insert slot note.row) := by
  intro other
  rw [Table.get?_insert, Function.update_apply]
  by_cases hsame : other = slot
  · rw [if_pos hsame, if_pos hsame.symm, Option.map_some]
  · rw [if_neg hsame, if_neg (Ne.symm hsame), h other]

theorem Tell.erase (h : notes.Tell rows) (slot : Address) :
    Tell (Function.update notes slot none) (rows.erase slot) := by
  intro other
  rw [Table.get?_erase, Function.update_apply]
  by_cases hsame : other = slot
  · rw [if_pos hsame, if_pos hsame.symm, Option.map_none]
  · rw [if_neg hsame, if_neg (Ne.symm hsame), h other]

end Notes

namespace Database

variable {d : Database} {notes : Notes}

/-- A row that is moved is the same row in its new place, with its checksum, and no other row is
touched. -/
theorem quarantine_row {now : Instant} {slot : Address} {space key : String}
    (h : (quarantine now slot space d).1 = .ok (some key)) :
    ∃ rows row, d.contents = some rows ∧ rows.get? slot = some row ∧ slot ≠ ⟨space, key⟩ ∧
      (quarantine now slot space d).2.contents = some ((rows.insert ⟨space, key⟩ row).erase slot) := by
  obtain ⟨checksums, _ | rows⟩ := d
  · cases h
  cases hrow : rows.get? slot with
  | none =>
    simp only [quarantine, onRows, hrow] at h
    cases h
  | some row =>
    simp only [quarantine, onRows, hrow] at h ⊢
    split at h
    · cases h
    · next hfree =>
      obtain rfl := Option.some.inj (Except.ok.inj h)
      refine ⟨rows, row, rfl, hrow, ?_, by rw [if_neg hfree]⟩
      intro hsame
      rw [← hsame, Table.contains, hrow] at hfree
      exact hfree rfl

/-- A slot that is not moved leaves all rows as they are. -/
theorem quarantine_stays {now : Instant} {slot : Address} {space : String}
    (h : ∀ key, (quarantine now slot space d).1 ≠ .ok (some key)) :
    (quarantine now slot space d).2 = d := by
  obtain ⟨checksums, _ | rows⟩ := d
  · rfl
  cases hrow : rows.get? slot with
  | none => simp only [quarantine, onRows, hrow]
  | some row =>
    simp only [quarantine, onRows, hrow] at h ⊢
    split at h
    · next htaken => rw [if_pos htaken]
    · exact absurd rfl (h _)

theorem tells_quarantine (h : notes.TellContents d.contents) (now : Instant) (slot : Address)
    (space : String) :
    (notes.after d.checksums (.quarantine slot space)
      (.quarantine (quarantine now slot space d).1)).TellContents
        (quarantine now slot space d).2.contents := by
  by_cases hmoved : ∃ key, (quarantine now slot space d).1 = .ok (some key)
  · obtain ⟨key, hkey⟩ := hmoved
    obtain ⟨rows, row, hrows, hrow, -, hafter⟩ := quarantine_row hkey
    obtain ⟨_, hsame, htell⟩ := h
    obtain rfl := Option.some.inj (hrows.symm.trans hsame)
    obtain ⟨note, hnote, rfl⟩ := Option.map_eq_some_iff.mp ((htell slot).symm.trans hrow)
    rw [hkey, hafter, Notes.after, hnote]
    exact ⟨_, rfl, (htell.insert _ note).erase slot⟩
  · rw [not_exists] at hmoved
    rw [quarantine_stays hmoved]
    cases hanswer : (quarantine now slot space d).1 with
    | error e => exact h
    | ok answer =>
      cases answer with
      | none => exact h
      | some key => exact absurd hanswer (hmoved key)

/-- A call leaves the rows that were written, as the answer to it tells. -/
theorem tells_run (h : notes.TellContents d.contents) (now : Instant) (call : SlotCall) :
    (notes.after d.checksums call (call.run now d).1).TellContents (call.run now d).2.contents := by
  obtain ⟨checksums, contents⟩ := d
  obtain ⟨rows, rfl, htell⟩ := h
  cases call with
  | read slot => exact ⟨rows, rfl, htell⟩
  | write slot data => exact ⟨_, rfl, htell.insert slot ⟨data, checksums⟩⟩
  | remove slot => exact ⟨_, rfl, htell.erase slot⟩
  | list space => exact ⟨rows, rfl, htell⟩
  | quarantine slot space => exact tells_quarantine ⟨rows, rfl, htell⟩ now slot space

/-- No call switches checksums on or off. -/
theorem checksums_run (now : Instant) (call : SlotCall) (d : Database) :
    (call.run now d).2.checksums = d.checksums := by
  obtain ⟨checksums, _ | rows⟩ := d <;> cases call <;> rfl

/-! ### Reports -/

/-- Nothing is found wrong with a row, while checksums are on, exactly if it has no checksum or the one
of its octets. -/
theorem verify_eq_none {slot : Address} {row : Row} (hon : d.checksums = true) :
    d.verify slot row = none ↔
      row.checksum = none ∨ row.checksum = some (Checksum.render row.data) := by
  rw [verify, if_pos hon]
  cases row.checksum with
  | none => simp
  | some expected => by_cases hsame : expected = Checksum.render row.data <;> simp [hsame]

theorem verify_row (d : Database) (slot : Address) (note : Note) : d.verify slot note.row = none := by
  cases hon : d.checksums with
  | false => exact if_neg (Bool.eq_false_iff.mp hon)
  | true =>
    refine (verify_eq_none hon).mpr ?_
    obtain ⟨data, _ | _⟩ := note
    · exact .inl rfl
    · exact .inr rfl

theorem mem_rowsOf {space key : String} {row : Row} {rows : Rows}
    (h : (key, row) ∈ rowsOf space rows) : rows.get? ⟨space, key⟩ = some row := by
  obtain ⟨⟨⟨s, k⟩, r⟩, hmem, heq⟩ := List.mem_map.mp h
  obtain ⟨hin, hspace⟩ := List.mem_filter.mp hmem
  obtain ⟨rfl, rfl⟩ := Prod.mk.inj heq
  obtain rfl : s = space := by simpa using hspace
  exact (mem_iff_valueOf? rows.sorted).mp hin

theorem verify_told {rows : Rows} (h : notes.Tell rows) {slot : Address} {row : Row}
    (hrow : rows.get? slot = some row) (d : Database) : d.verify slot row = none := by
  obtain ⟨note, -, rfl⟩ := Option.map_eq_some_iff.mp ((h slot).symm.trans hrow)
  exact verify_row d slot note

/-- Where every row is as it was written, nothing is reported of a slot that is read. -/
theorem readReports_told (h : notes.TellContents d.contents) (slot : Address) :
    d.readReports slot = [] := by
  obtain ⟨rows, hrows, htell⟩ := h
  rw [readReports, hrows, Option.bind_some]
  cases hrow : rows.get? slot with
  | none => rfl
  | some row => rw [Option.bind_some, verify_told htell hrow, Option.toList_none]

/-- Where every row is as it was written, nothing is reported of a namespace that is listed. -/
theorem listReports_told (h : notes.TellContents d.contents) (space : String) :
    d.listReports space = [] := by
  obtain ⟨rows, hrows, htell⟩ := h
  rw [listReports, hrows, Option.map_some, Option.getD_some]
  exact List.filterMap_eq_nil_iff.mpr fun ⟨key, row⟩ hmem => verify_told htell (mem_rowsOf hmem) d

end Database

namespace Archive

/-! ### Files after a rotation -/

/-- Where files are after a rotation: none behind the count, each backup up to it one number higher, and
all other files where they were. -/
theorem get?_rotate {a : Archive} {name : String} (hname : a.name = some name)
    (hcount : 1 ≤ a.settings.backupCount.toNat) (file : String) :
    a.rotate.others.get? file =
      if file = backupName name (behind a.settings) then none
      else match backupNumber? name file with
      | none => a.others.get? file
      | some n =>
        if n = 1 then some a.database.contents
        else if 2 ≤ n ∧ n ≤ a.settings.backupCount.toNat then
          (a.others.get? (backupName name (n - 1))).or
            (if n = a.settings.backupCount.toNat then a.others.get? file else none)
        else a.others.get? file := by
  by_cases hbackup : ∃ n, file = backupName name n
  · obtain ⟨n, rfl⟩ := hbackup
    have hbehind := behind_cases a.settings
    have hrotated := numbered_rotate hname hcount n
    simp only [numbered, (settings_rotate a).2.1, hname, Option.bind_some] at hrotated
    rw [hrotated]
    simp only [backupName_inj]
    by_cases hlast : n = behind a.settings
    · rw [if_neg (by omega), if_pos hlast, if_pos hlast]
    · rw [if_neg hlast, if_neg hlast]
      rcases Nat.eq_zero_or_pos n with rfl | hpositive
      · -- backups are numbered from one, so this is a file like any other
        have hnone : backupNumber? name (backupName name 0) = none :=
          Option.eq_none_iff_forall_ne_some.mpr fun k hk => by
            obtain ⟨hk, hsame⟩ := backupNumber?_eq_some.mp hk
            exact Nat.ne_of_lt hk (backupName_inj.mp hsame)
        rw [hnone, if_neg Nat.zero_ne_one, if_neg (by omega)]
      · rw [backupNumber?_eq_some.mpr ⟨hpositive, rfl⟩]
  · rw [not_exists] at hbackup
    have hnone : backupNumber? name file = none :=
      Option.eq_none_iff_forall_ne_some.mpr fun k hk => hbackup k (backupNumber?_eq_some.mp hk).2
    rw [if_neg (hbackup _), hnone, rotate_other hname hbackup]

/-! ### Other openings -/

/-- What happens to an archive: a move, a copy of the database into a file, an opening of the database
in another file or of an empty one in memory, or an opening of the same database with what a file
holds in the place of what it held. An opening comes with settings of its own. -/
inductive Step
  | move (m : Move)
  | backup (file : String)
  | reopen (settings : StorageSettings) (name : Option String)
  | restore (settings : StorageSettings) (file : String)

/-- The database in a file of the folder open instead, or an empty one in memory. -/
def switched (a : Archive) (settings : StorageSettings) : Option String → Archive
  | some name => opened settings name a.folder
  | none => { inMemory settings with others := a.folder }

/-- The database opened with what a file of the folder holds; nothing if the file is missing. -/
def restored (a : Archive) (settings : StorageSettings) (file : String) : Archive :=
  match a.folder.get? file with
  | some contents =>
    { a with settings, database := .opened settings.checksumEnabled contents }
  | none => a

def step (a : Archive) : Step → Archive
  | .move m => a.act m
  | .backup file => a.backup file
  | .reopen settings name => a.switched settings name
  | .restore settings file => a.restored settings file

def stepped (steps : List Step) (a : Archive) : Archive := steps.foldl step a

def founded (settings : StorageSettings) (name : Option String) : Archive :=
  (inMemory settings).switched settings name

end Archive

/-! ### Logbooks -/

/-- What was last written to the slots of an open database, and to those of every file beside it. -/
structure Logbook where
  rows : Notes
  files : String → Option Notes

namespace Logbook

open Archive

def blank : Logbook := ⟨.blank, fun _ => none⟩

def folder (l : Logbook) : Option String → String → Option Notes
  | some name => Function.update l.files name (some l.rows)
  | none => l.files

/-- Another numbered backup: the files after it, each with the notes about what it holds. -/
def rotated (l : Logbook) (name : String) (settings : StorageSettings) : Logbook :=
  { l with
    files := fun file =>
      if file = backupName name (behind settings) then none
      else match backupNumber? name file with
      | none => l.files file
      | some n =>
        if n = 1 then some l.rows
        else if 2 ≤ n ∧ n ≤ settings.backupCount.toNat then
          (l.files (backupName name (n - 1))).or
            (if n = settings.backupCount.toNat then l.files file else none)
        else l.files file }

/-- The logbook after a step of an archive. Of the archive it takes only its name and its settings,
and what it answers. -/
def step (a : Archive) (l : Logbook) : Step → Logbook
  | .move (.call now call) =>
    { l with rows := l.rows.after a.settings.checksumEnabled call (call.run now a.database).1 }
  | .move .rotate =>
    match a.name with
    | some name =>
      if a.settings.backupCount.toNat = 0 then l else l.rotated name a.settings
    | none => l
  | .backup file => { l with files := Function.update l.files file (some l.rows) }
  | .reopen _ (some name) =>
    ⟨(l.folder a.name name).getD .blank, Function.update (l.folder a.name) name none⟩
  | .reopen _ none => ⟨.blank, l.folder a.name⟩
  | .restore _ file =>
    match l.folder a.name file with
    | some rows => { l with rows }
    | none => l

def stepped : List Step → Archive → Logbook → Logbook
  | [], _, l => l
  | s :: rest, a, l => stepped rest (a.step s) (l.step a s)

/-- A logbook tells what an archive holds: the rows of its database, and of every file there is. -/
structure Tells (l : Logbook) (a : Archive) : Prop where
  rows : l.rows.TellContents a.database.contents
  files : ∀ file, Option.Rel Notes.TellContents (l.files file) (a.others.get? file)
  checksums : a.database.checksums = a.settings.checksumEnabled

variable {l : Logbook} {a : Archive}

theorem rel_or {α β : Type} {r : α → β → Prop} {o o' : Option α} {p p' : Option β}
    (h : Option.Rel r o p) (h' : Option.Rel r o' p') : Option.Rel r (o.or o') (p.or p') := by
  cases h with
  | some hr => exact .some hr
  | none => exact h'

theorem rel_ite {α β : Type} {r : α → β → Prop} {c : Prop} [Decidable c] {o o' : Option α}
    {p p' : Option β} (h : Option.Rel r o p) (h' : Option.Rel r o' p') :
    Option.Rel r (if c then o else o') (if c then p else p') := by
  split
  · exact h
  · exact h'

/-- Opening what a file holds makes a table if there is none. -/
theorem tells_opened {notes : Option Notes} {contents : Option Contents} (checksums : Bool)
    (h : Option.Rel Notes.TellContents notes contents) :
    (notes.getD .blank).TellContents (Database.opened checksums (contents.getD none)).contents := by
  cases h with
  | none => exact ⟨_, rfl, Notes.tell_blank⟩
  | some htell =>
    obtain ⟨rows, rfl, hrows⟩ := htell
    exact ⟨rows, rfl, hrows⟩

theorem Tells.put (h : l.Tells a) (name file : String) :
    Option.Rel Notes.TellContents (Function.update l.files name (some l.rows) file)
      ((a.others.insert name a.database.contents).get? file) := by
  simp only [Function.update_apply, Table.get?_insert, eq_comm (a := name)]
  exact rel_ite (.some h.rows) (h.files file)

theorem Tells.folder (h : l.Tells a) (file : String) :
    Option.Rel Notes.TellContents (l.folder a.name file) (a.folder.get? file) := by
  unfold Logbook.folder Archive.folder
  cases a.name with
  | none => exact h.files file
  | some name => exact h.put name file

/-- After a rotation the logbook tells the files: the new backup, the older ones under their new
numbers, and all other files where they were. -/
theorem Tells.rotate (h : l.Tells a) : (l.step a (.move .rotate)).Tells a.rotate := by
  obtain ⟨hsettings, -, hdatabase⟩ := settings_rotate a
  cases hname : a.name with
  | none =>
    have hsame : a.rotate = a := by simp only [Archive.rotate, hname]
    simp only [step, hname, hsame]
    exact h
  | some name =>
    by_cases hzero : a.settings.backupCount.toNat = 0
    · simp only [step, hname, hzero, if_true, rotate_of_zero hzero]
      exact h
    · have hcount : 1 ≤ a.settings.backupCount.toNat := by omega
      simp only [step, hname, hzero, if_false]
      refine ⟨hdatabase ▸ h.rows, fun file => ?_, by rw [hdatabase, hsettings]; exact h.checksums⟩
      rw [get?_rotate hname hcount, rotated]
      refine rel_ite .none ?_
      cases backupNumber? name file with
      | none => exact h.files file
      | some n =>
        -- both sides ask the same questions about the number
        have hlast := rel_ite (c := n = a.settings.backupCount.toNat) (h.files file) .none
        have hmoved := rel_or (h.files (backupName name (n - 1))) hlast
        exact rel_ite (.some h.rows) (rel_ite hmoved (h.files file))

theorem Tells.step (h : l.Tells a) (s : Step) : (l.step a s).Tells (a.step s) := by
  cases s with
  | move m =>
    cases m with
    | call now call =>
      have hrows := Database.tells_run h.rows now call
      rw [h.checksums] at hrows
      exact ⟨hrows, h.files, (Database.checksums_run now call a.database).trans h.checksums⟩
    | rotate => exact h.rotate
  | backup file => exact ⟨h.rows, h.put file, h.checksums⟩
  | reopen settings name =>
    cases name with
    | none => exact ⟨⟨_, rfl, Notes.tell_blank⟩, h.folder, rfl⟩
    | some name =>
      refine ⟨tells_opened _ (h.folder name), fun file => ?_, rfl⟩
      change Option.Rel _ (Function.update (l.folder a.name) name none file)
        ((a.folder.erase name).get? file)
      simp only [Function.update_apply, Table.get?_erase, eq_comm (a := name)]
      exact rel_ite .none (h.folder file)
  | restore settings file =>
    have hfile := h.folder file
    simp only [Logbook.step, Archive.step, restored]
    cases hnotes : l.folder a.name file with
    | none =>
      rw [hnotes] at hfile
      generalize a.folder.get? file = held at hfile ⊢
      cases hfile
      exact h
    | some notes =>
      rw [hnotes] at hfile
      generalize a.folder.get? file = held at hfile ⊢
      cases hfile with
      | some htell => exact ⟨tells_opened _ (.some htell), h.files, rfl⟩

/-- A logbook that tells what an archive holds does so after any run. -/
theorem Tells.stepped (h : l.Tells a) (steps : List Step) :
    (Logbook.stepped steps a l).Tells (a.stepped steps) := by
  induction steps generalizing a l with
  | nil => exact h
  | cons s rest ih => exact ih (h.step s)

theorem tells_founded (settings : StorageSettings) (name : Option String) :
    blank.Tells (founded settings name) := by
  cases name with
  | none => exact ⟨⟨_, rfl, Notes.tell_blank⟩, fun _ => .none, rfl⟩
  | some name => exact ⟨⟨_, rfl, Notes.tell_blank⟩, fun _ => .none, rfl⟩

end Logbook

/-! ### Checksums along a run -/

/-- A database holds what was last written, and no stale checksums: one that is there is that of the
octets beside it, and there is none exactly if the octets were written without. -/
def Notes.Recorded (notes : Notes) (contents : Contents) : Prop :=
  ∃ rows, contents = some rows ∧ ∀ slot,
    (rows.get? slot).map (·.data) = (notes slot).map (·.data) ∧
    ∀ row, rows.get? slot = some row →
      (row.checksum = none ∨ row.checksum = some (Checksum.render row.data)) ∧
      (row.checksum = none ↔ (notes slot).map (·.summed) = some false)

theorem Notes.TellContents.recorded {notes : Notes} {contents : Contents}
    (h : notes.TellContents contents) : notes.Recorded contents := by
  obtain ⟨rows, rfl, htell⟩ := h
  refine ⟨rows, rfl, fun slot => ⟨?_, fun row hrow => ?_⟩⟩
  · rw [htell slot, Option.map_map]
    rfl
  · obtain ⟨⟨data, summed⟩, hnote, rfl⟩ := Option.map_eq_some_iff.mp ((htell slot).symm.trans hrow)
    rw [hnote]
    cases summed with
    | false => exact ⟨.inl rfl, iff_of_true rfl rfl⟩
    | true => exact ⟨.inr rfl, iff_of_false nofun nofun⟩

namespace Archive

/-- After any run from an empty database, under any settings that came and went, the rows of the
database and of every file beside it are what was last written there, each with the checksum of its
octets if checksums were on when it was written and with none if they were off. A slot that is moved
aside takes its row along as it is. So nothing is ever reported of what is read or listed. -/
theorem checksums_current (settings : StorageSettings) (name : Option String) (steps : List Step) :
    let start := founded settings name
    let a := start.stepped steps
    let l := Logbook.stepped steps start .blank
    l.rows.Recorded a.database.contents ∧
    (∀ file, Option.Rel Notes.Recorded (l.files file) (a.others.get? file)) ∧
    (∀ now slot space key, (Backend.quarantine now slot space a.database).1 = .ok (some key) →
      ∃ rows row moved, a.database.contents = some rows ∧ rows.get? slot = some row ∧
        (Backend.quarantine now slot space a.database).2.contents = some moved ∧
        moved.get? ⟨space, key⟩ = some row ∧ moved.get? slot = none ∧
        ∀ other, other ≠ slot → other ≠ ⟨space, key⟩ → moved.get? other = rows.get? other) ∧
    (∀ slot, a.database.readReports slot = []) ∧ ∀ space, a.database.listReports space = [] := by
  intro start a l
  have htells : l.Tells a := (Logbook.tells_founded settings name).stepped steps
  refine ⟨htells.rows.recorded, fun file => ?_, fun now slot space key h => ?_,
    Database.readReports_told htells.rows, Database.listReports_told htells.rows⟩
  · have hfile := htells.files file
    generalize l.files file = notes, a.others.get? file = held at hfile ⊢
    cases hfile with
    | none => exact .none
    | some htell => exact .some htell.recorded
  · obtain ⟨rows, row, hrows, hrow, hne, hafter⟩ := Database.quarantine_row h
    refine ⟨rows, row, _, hrows, hrow, hafter, ?_, ?_, fun other hslot hplace => ?_⟩
    · rw [Table.get?_erase, if_neg hne, Table.get?_insert, if_pos rfl]
    · rw [Table.get?_erase, if_pos rfl]
    · rw [Table.get?_erase, if_neg (Ne.symm hslot), Table.get?_insert, if_neg (Ne.symm hplace)]

/-- Two slots are written with checksums, one of them again without, and checksums are on again in the
end. A backup was made while they were off. -/
def switchedRun : List Step :=
  [.move (.call ⟨epoch, 0, 0, isMoment_zero⟩ (.write ⟨"user", "1"⟩ [123, 125])),
    .move (.call ⟨epoch, 0, 0, isMoment_zero⟩ (.write ⟨"user", "2"⟩ [123, 125])),
    .reopen { checksumEnabled := false } (some "bot.db"),
    .move (.call ⟨epoch, 0, 0, isMoment_zero⟩ (.write ⟨"user", "2"⟩ [91, 93])),
    .move .rotate,
    .restore {} "bot.db.bak.1"]

theorem checksums_current_switched :
    let d := ((founded {} (some "bot.db")).stepped switchedRun).database
    let moved := Backend.quarantine ⟨epoch, 0, 0, isMoment_zero⟩ ⟨"user", "1"⟩ "user_backup" d
    moved.1 = .ok (some "1.corrupt.0") ∧
      (d.checksum ⟨"user", "1"⟩).1 = .ok (some (Checksum.render [123, 125])) ∧
      (moved.2.checksum ⟨"user_backup", "1.corrupt.0"⟩).1 = (d.checksum ⟨"user", "1"⟩).1 ∧
      (d.checksum ⟨"user", "2"⟩).1 = .ok none ∧ d.listReports "user" = [] := by
  intro d moved
  obtain ⟨-, -, hmoves, -, hlists⟩ := checksums_current {} (some "bot.db") switchedRun
  have hkey : moved.1 = .ok (some "1.corrupt.0") := by decide +kernel
  have hsummed : (d.checksum ⟨"user", "1"⟩).1 = .ok (some (Checksum.render [123, 125])) := by
    decide +kernel
  have hbare : (d.checksum ⟨"user", "2"⟩).1 = .ok none := by decide +kernel
  obtain ⟨rows, row, after, hrows, hrow, hafter, hplace, -, -⟩ := hmoves _ _ _ _ hkey
  refine ⟨hkey, hsummed, ?_, hbare, hlists "user"⟩
  simp only [Database.checksum, Database.onRows, hrows, hrow, hplace, moved, hafter, d]

end Archive

end Companion
