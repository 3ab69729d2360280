import Companion.Proofs.Listings
import Companion.Proofs.RecordText
import Companion.Storage.Archive
import Mathlib.Data.List.Nodup

/-!
Numbered backups. Another backup takes number one, and each older one moves up by one number, as long
as that is not beyond the count that is to be kept. So after any run from an empty folder the backups
hold what the database held at the latest rotations, the newest first. A rotation looks at one number
beyond its count and no further: backups with greater numbers, left by a time when more were kept, stay
for good and are not counted.
-/

namespace Companion

open Number Text Time Json

/-! ### Names of backups -/

def numberAtEnd (file : String) : Nat :=
  ofDigits (file.toList.reverse.takeWhile Char.isDigit).reverse

theorem numberAtEnd_backupName (name : String) (n : Nat) : numberAtEnd (backupName name n) = n := by
  have hdigits : ∀ c ∈ (Nat.toDigits 10 n).reverse, c.isDigit = true := fun c hc =>
    toDigits_isDigit (List.mem_reverse.mp hc)
  obtain ⟨front, hfront⟩ : ∃ front, (backupName name n).toList =
      front ++ '.' :: Nat.toDigits 10 n := by
    refine ⟨((splitExtension name).1 ++ "." ++ (splitExtension name).2 ++ ".bak").toList, ?_⟩
    simp [backupName, String.toList_append]
  have htake : ((backupName name n).toList.reverse.takeWhile Char.isDigit) =
      (Nat.toDigits 10 n).reverse := by
    rw [hfront, List.reverse_append, List.reverse_cons, List.append_assoc,
      List.takeWhile_append_of_pos hdigits]
    simp
  rw [numberAtEnd, htake, List.reverse_reverse, ofDigits_toDigits]

/-- Backups of one database with different numbers have different names. -/
theorem backupName_inj {name : String} {i j : Nat} : backupName name i = backupName name j ↔ i = j := by
  refine ⟨fun h => ?_, fun h => h ▸ rfl⟩
  rw [← numberAtEnd_backupName name i, h, numberAtEnd_backupName]

/-- A backup of a database does not have the name of the database. -/
theorem backupName_ne (name : String) (n : Nat) : backupName name n ≠ name := by
  have hlength : name.toList.length ≤
      (splitExtension name).1.toList.length + 1 + (splitExtension name).2.toList.length := by
    unfold splitExtension
    dsimp only
    split
    · next c rest hrest =>
      have hsplit := congrArg List.length
        (List.take_append_drop (name.toList.reverse.takeWhile (· != '.')).length name.toList.reverse)
      rw [hrest] at hsplit
      simp at hsplit ⊢
      omega
    · simp
  intro h
  have hsame := congrArg (fun s => s.toList.length) h
  simp [backupName, String.toList_append] at hsame hlength
  omega

/-- The number of the backup of a database that a file is. Backups are numbered from one. -/
def backupNumber? (name file : String) : Option Nat :=
  if 0 < numberAtEnd file ∧ file = backupName name (numberAtEnd file) then some (numberAtEnd file)
  else none

theorem backupNumber?_eq_some {name file : String} {n : Nat} :
    backupNumber? name file = some n ↔ 0 < n ∧ file = backupName name n := by
  rw [backupNumber?]
  constructor
  · intro h
    split at h
    · next hfile =>
      obtain rfl := Option.some.inj h
      exact hfile
    · cases h
  · rintro ⟨hn, rfl⟩
    rw [numberAtEnd_backupName, if_pos ⟨hn, rfl⟩]

def backupNumbers (name : String) (files : Folder) : List Nat :=
  (files.entries.map Prod.fst).filterMap (backupNumber? name)

theorem mem_backupNumbers {name : String} {files : Folder} {n : Nat} :
    n ∈ backupNumbers name files ↔ 0 < n ∧ (files.get? (backupName name n)).isSome = true := by
  have hkey : ∀ file, file ∈ files.entries.map Prod.fst ↔ (files.get? file).isSome = true := by
    intro file
    rw [Option.isSome_iff_exists, List.mem_map]
    constructor
    · rintro ⟨e, he, rfl⟩
      exact ⟨e.2, (mem_iff_valueOf? files.sorted).mp he⟩
    · rintro ⟨contents, hget⟩
      exact ⟨(file, contents), (mem_iff_valueOf? files.sorted).mpr hget, rfl⟩
  simp only [backupNumbers, List.mem_filterMap, backupNumber?_eq_some, hkey]
  constructor
  · rintro ⟨_, hfile, hn, rfl⟩
    exact ⟨hn, hfile⟩
  · rintro ⟨hn, hfile⟩
    exact ⟨_, hfile, hn, rfl⟩

theorem nodup_backupNumbers (name : String) (files : Folder) : (backupNumbers name files).Nodup := by
  refine List.Nodup.filterMap ?_ files.sorted.nodup_keys
  intro file other n hfile hother
  rw [(backupNumber?_eq_some.mp hfile).2, (backupNumber?_eq_some.mp hother).2]

namespace Archive

/-! ### One rotation -/

section Rotation

variable {name : String}

/-- A file under another name: the new name has what the old one had, if it had anything, and the old
one has nothing. -/
theorem get?_renamed (files : Folder) (file target other : String) :
    (renamed files file target).get? other =
      if other = target then (files.get? file).or (files.get? target)
      else if other = file then none else files.get? other := by
  unfold renamed
  cases hfile : files.get? file with
  | none => grind
  | some contents =>
    simp only [Table.get?_insert, Table.get?_erase, Option.some_or, eq_comm (a := other)]

/-- Backups moved up by one number: each takes the place of the next, if it is there at all. Only the
last place can keep what it had. -/
theorem get?_movedUp (files : Folder) (k n : Nat) :
    (movedUp name k files).get? (backupName name n) =
      if 2 ≤ n ∧ n ≤ k + 1 then
        (files.get? (backupName name (n - 1))).or
          (if n = k + 1 then files.get? (backupName name n) else none)
      else if n = 1 ∧ 1 ≤ k then none else files.get? (backupName name n) := by
  induction k generalizing files with
  | zero =>
    rw [movedUp, if_neg (by omega), if_neg (by omega)]
  | succ k ih =>
    rw [movedUp, ih]
    simp only [get?_renamed, backupName_inj]
    by_cases htop : n = k + 2
    · subst htop
      simp
    by_cases hmoved : 2 ≤ n ∧ n ≤ k + 1
    · -- the place below is not the one that the first renaming emptied
      obtain ⟨hlow, hhigh⟩ := hmoved
      have hbelow : n - 1 ≠ k + 2 ∧ n - 1 ≠ k + 1 := by omega
      have hwithin : 2 ≤ n ∧ n ≤ k + 1 + 1 := by omega
      simp only [hlow, hhigh, and_self, if_true, hbelow.1, hbelow.2, if_false, htop, hwithin]
      split <;> simp
    · have hbeyond : ¬ (2 ≤ n ∧ n ≤ k + 1 + 1) := by omega
      simp only [hmoved, hbeyond, if_false, htop]
      by_cases hone : n = 1
      · subst hone
        cases k <;> simp
      · have hkept : n ≠ k + 1 := by omega
        simp [hone, hkept]

/-- Moving backups up concerns no other file. -/
theorem get?_movedUp_other (files : Folder) (k : Nat) {file : String}
    (hother : ∀ n, file ≠ backupName name n) : (movedUp name k files).get? file = files.get? file := by
  induction k generalizing files with
  | zero => rfl
  | succ k ih => rw [movedUp, ih, get?_renamed, if_neg (hother _), if_neg (hother _)]

end Rotation

def numbered (a : Archive) (n : Nat) : Option Contents :=
  a.name.bind fun name => a.others.get? (backupName name n)

/-- Backups are kept, and the number behind the last of them is one of 32 bits. -/
def KeepsBackups (settings : StorageSettings) : Prop :=
  1 ≤ settings.backupCount.toNat ∧ settings.backupCount.toNat + 1 < UInt32.size

instance (settings : StorageSettings) : Decidable (KeepsBackups settings) :=
  inferInstanceAs (Decidable (_ ∧ _))

theorem behind_cases (settings : StorageSettings) :
    behind settings = settings.backupCount.toNat + 1 ∨ behind settings = 0 := by
  have hlt := settings.backupCount.toNat_lt
  rw [behind, UInt32.toNat_add, UInt32.toNat_one]
  omega

theorem KeepsBackups.behind_eq {settings : StorageSettings} (h : KeepsBackups settings) :
    behind settings = settings.backupCount.toNat + 1 := by
  rw [behind, UInt32.toNat_add, UInt32.toNat_one]
  exact Nat.mod_eq_of_lt h.2

section Rotation

variable {a : Archive} {name : String}

theorem rotate_eq (hname : a.name = some name) (hcount : 1 ≤ a.settings.backupCount.toNat) :
    a.rotate =
      { a with
        others :=
          ((movedUp name (a.settings.backupCount.toNat - 1) a.others).erase
            (backupName name (behind a.settings))).insert
              (backupName name 1) a.database.contents } := by
  obtain ⟨settings, _, database, others⟩ := a
  dsimp only at hname hcount
  subst hname
  have hpositive : settings.backupCount.toNat ≠ 0 := by omega
  simp only [rotate, backup, hpositive, if_false]

theorem rotate_of_zero (hcount : a.settings.backupCount.toNat = 0) : a.rotate = a := by
  unfold rotate
  split
  · rfl
  · exact if_pos hcount

theorem settings_rotate (a : Archive) : a.rotate.settings = a.settings ∧ a.rotate.name = a.name ∧
    a.rotate.database = a.database := by
  cases hname : a.name with
  | none =>
    have hsame : a.rotate = a := by
      simp only [rotate, hname]
    rw [hsame]
    exact ⟨rfl, hname, rfl⟩
  | some name =>
    by_cases hcount : a.settings.backupCount.toNat = 0
    · rw [rotate_of_zero hcount]
      exact ⟨rfl, hname, rfl⟩
    · rw [rotate_eq hname (by omega)]
      exact ⟨rfl, hname, rfl⟩

/-- What a rotation leaves under each number: the contents of the database under one, under another
number up to the count what was there one number below, and nothing under the one behind the count. The
last place may also keep what it had, and all places beyond do. -/
theorem numbered_rotate (hname : a.name = some name) (hcount : 1 ≤ a.settings.backupCount.toNat)
    (n : Nat) :
    a.rotate.numbered n =
      if n = 1 then some a.database.contents
      else if n = behind a.settings then none
      else if 2 ≤ n ∧ n ≤ a.settings.backupCount.toNat then
        (a.numbered (n - 1)).or (if n = a.settings.backupCount.toNat then a.numbered n else none)
      else a.numbered n := by
  have hnumbered : ∀ b : Archive, b.name = some name →
      ∀ k, b.numbered k = b.others.get? (backupName name k) := by
    intro b hb k
    rw [numbered, hb, Option.bind_some]
  have hmoved : a.settings.backupCount.toNat - 1 + 1 = a.settings.backupCount.toNat := by omega
  rw [hnumbered a hname, hnumbered a hname, hnumbered _ ((settings_rotate a).2.1.trans hname),
    rotate_eq hname hcount]
  simp only [Table.get?_insert, Table.get?_erase, backupName_inj, get?_movedUp, hmoved,
    eq_comm (b := n)]
  by_cases hone : n = 1
  · simp [hone]
  · simp [hone]

/-- A rotation concerns no file but backups. -/
theorem rotate_other (hname : a.name = some name) {file : String}
    (hother : ∀ n, file ≠ backupName name n) : a.rotate.others.get? file = a.others.get? file := by
  by_cases hcount : a.settings.backupCount.toNat = 0
  · rw [rotate_of_zero hcount]
  · rw [rotate_eq hname (by omega)]
    simp only [Table.get?_insert, Table.get?_erase, (hother _).symm, if_false,
      get?_movedUp_other _ _ hother]

end Rotation

/-! ### Runs -/

inductive Move
  | call (now : Instant) (call : SlotCall)
  | rotate

def act (a : Archive) : Move → Archive
  | .call now call => { a with database := (call.run now a.database).2 }
  | .rotate => a.rotate

def after (moves : List Move) (a : Archive) : Archive := moves.foldl act a

def rotations : List Move → Nat
  | [] => 0
  | .call _ _ :: rest => rotations rest
  | .rotate :: rest => rotations rest + 1

/-- What the database held at each rotation of a run. -/
def snapshots : List Move → Archive → List Contents
  | [], _ => []
  | .call now call :: rest, a => snapshots rest (a.act (.call now call))
  | .rotate :: rest, a => a.database.contents :: snapshots rest (a.act .rotate)

/-- The backups are the latest of some contents, as many as are to be kept, the newest first. -/
def Keeps (a : Archive) (newest : List Contents) : Prop :=
  ∀ i, a.numbered (i + 1) = (newest.take a.settings.backupCount.toNat)[i]?

section Runs

variable {a : Archive} {name : String}

theorem settings_act (a : Archive) (m : Move) :
    (a.act m).settings = a.settings ∧ (a.act m).name = a.name := by
  cases m with
  | call now call => exact ⟨rfl, rfl⟩
  | rotate => exact ⟨(settings_rotate a).1, (settings_rotate a).2.1⟩

theorem settings_after (a : Archive) (moves : List Move) :
    (a.after moves).settings = a.settings ∧ (a.after moves).name = a.name := by
  induction moves generalizing a with
  | nil => exact ⟨rfl, rfl⟩
  | cons m rest ih =>
    obtain ⟨hsettings, hname⟩ := ih (a.act m)
    exact ⟨hsettings.trans (settings_act a m).1, hname.trans (settings_act a m).2⟩

/-- With another backup the others move up, and the oldest one goes if there are enough. -/
theorem Keeps.rotate {newest : List Contents} (h : a.Keeps newest) (hname : a.name = some name)
    (hcount : KeepsBackups a.settings) :
    a.rotate.Keeps (a.database.contents :: newest) := by
  have hplace : ∀ j, a.numbered (j + 1) =
      if j < a.settings.backupCount.toNat then newest[j]? else none := fun j => by
    rw [h j, List.getElem?_take]
  intro i
  rw [numbered_rotate hname hcount.1, hcount.behind_eq, (settings_rotate a).1, List.getElem?_take]
  cases i with
  | zero =>
    rw [if_pos rfl, if_pos (Nat.lt_of_succ_le hcount.1), List.getElem?_cons_zero]
  | succ j =>
    rw [if_neg (by omega), Nat.add_sub_cancel, hplace, hplace, List.getElem?_cons_succ]
    by_cases hbehind : j + 1 = a.settings.backupCount.toNat
    · rw [if_pos (by omega), if_neg (by omega)]
    rw [if_neg (by omega)]
    by_cases hwithin : j + 1 < a.settings.backupCount.toNat
    · rw [if_pos (by omega), if_pos (by omega), if_pos hwithin, if_pos hwithin]
      cases hfound : newest[j]? with
      | some contents => rw [Option.some_or]
      | none =>
        have hnext : newest[j + 1]? = none :=
          List.getElem?_eq_none (Nat.le_succ_of_le (List.getElem?_eq_none_iff.mp hfound))
        rw [hnext, Option.none_or, ite_self]
    · rw [if_neg (by omega), if_neg hwithin, if_neg hwithin]

theorem Keeps.after {newest : List Contents} (h : a.Keeps newest) (hname : a.name = some name)
    (hcount : KeepsBackups a.settings) (moves : List Move) :
    (a.after moves).Keeps ((snapshots moves a).reverse ++ newest) := by
  induction moves generalizing a newest with
  | nil => exact h
  | cons m rest ih =>
    obtain ⟨hsettings, hsame⟩ := settings_act a m
    have hname' := hsame.trans hname
    rw [← hsettings] at hcount
    cases m with
    | call now call => exact ih h hname' hcount
    | rotate =>
      have hrest := ih (h.rotate hname (hsettings ▸ hcount)) hname' hcount
      rw [snapshots, List.reverse_cons, List.append_assoc]
      exact hrest

theorem length_snapshots (moves : List Move) (a : Archive) :
    (snapshots moves a).length = rotations moves := by
  induction moves generalizing a with
  | nil => rfl
  | cons m rest ih =>
    cases m with
    | call now call => exact ih _
    | rotate =>
      rw [snapshots, List.length_cons, ih, rotations]

theorem snapshots_split (earlier later : List Move) (a : Archive) :
    snapshots (earlier ++ .rotate :: later) a = snapshots earlier a ++
      (a.after earlier).database.contents :: snapshots later ((a.after earlier).act .rotate) := by
  induction earlier generalizing a with
  | nil => rfl
  | cons m rest ih =>
    cases m with
    | call now call => exact ih _
    | rotate => exact congrArg (a.database.contents :: ·) (ih _)

theorem after_other (hname : a.name = some name) (moves : List Move) {file : String}
    (hother : ∀ n, file ≠ backupName name n) :
    (a.after moves).others.get? file = a.others.get? file := by
  induction moves generalizing a with
  | nil => rfl
  | cons m rest ih =>
    refine (ih ((settings_act a m).2.trans hname)).trans ?_
    cases m with
    | call now call => rfl
    | rotate => exact rotate_other hname hother

theorem numbered_zero (hname : a.name = some name) (hcount : KeepsBackups a.settings)
    (moves : List Move) : (a.after moves).numbered 0 = a.numbered 0 := by
  induction moves generalizing a with
  | nil => rfl
  | cons m rest ih =>
    obtain ⟨hsettings, hsame⟩ := settings_act a m
    refine (ih (hsame.trans hname) (hsettings ▸ hcount)).trans ?_
    cases m with
    | call now call => rfl
    | rotate =>
      show a.rotate.numbered 0 = a.numbered 0
      rw [numbered_rotate hname hcount.1, hcount.behind_eq, if_neg (by omega), if_neg (by omega),
        if_neg (by omega)]

/-- After a run from a folder without backups there are as many backups as there were rotations, at
most as many as are to be kept, numbered from one. Each holds what the database held at its rotation:
the one that was followed by so many others has their number plus one. No other file has changed. -/
theorem rotations_kept (hname : a.name = some name) (hcount : KeepsBackups a.settings)
    (hnone : ∀ n, a.numbered n = none) (moves : List Move) :
    (∀ i, ((a.after moves).numbered i).isSome = true ↔
      1 ≤ i ∧ i ≤ min (rotations moves) a.settings.backupCount.toNat) ∧
    (∀ earlier later, moves = earlier ++ .rotate :: later →
      rotations later < a.settings.backupCount.toNat →
        (a.after moves).numbered (rotations later + 1) =
          some (a.after earlier).database.contents) ∧
    ∀ file, (∀ n, file ≠ backupName name n) →
      (a.after moves).others.get? file = a.others.get? file := by
  have hstart : a.Keeps [] := fun i => by rw [hnone, List.take_nil, List.getElem?_nil]
  have hplace : ∀ i, (a.after moves).numbered (i + 1) =
      if i < a.settings.backupCount.toNat then (snapshots moves a).reverse[i]? else none := by
    intro i
    rw [hstart.after hname hcount moves i, List.append_nil, (settings_after a moves).1,
      List.getElem?_take]
  refine ⟨fun i => ?_, ?_, fun file hother => after_other hname moves hother⟩
  · cases i with
    | zero =>
      rw [numbered_zero hname hcount, hnone]
      simp
    | succ i =>
      rw [hplace, ← length_snapshots moves a]
      by_cases hi : i < a.settings.backupCount.toNat
      · rw [if_pos hi]
        simp
        omega
      · rw [if_neg hi]
        simp
        omega
  · rintro earlier later rfl hlater
    rw [hplace, if_pos hlater, snapshots_split,
      ← length_snapshots later ((a.after earlier).act .rotate)]
    simp

end Runs

def sampleSlot : Address := ⟨"user", "1"⟩

def pairKeeper : Archive := .opened { backupCount := 2, checksumEnabled := false } "bot.db" .empty

def writing (octet : UInt8) : Move := .call ⟨epoch, 0, 0, isMoment_zero⟩ (.write sampleSlot [octet])

def threeRotations : List Move :=
  [writing 1, .rotate, writing 2, .rotate, writing 3, .rotate]

theorem rotations_kept_pair :
    (pairKeeper.after threeRotations).numbered 2 =
        some (some (Table.empty.insert sampleSlot ⟨[2], none⟩)) ∧
      (pairKeeper.after threeRotations).numbered 3 = none := by
  obtain ⟨hexists, hholds, -⟩ := rotations_kept (a := pairKeeper) rfl (by decide) (fun _ => rfl)
    threeRotations
  constructor
  · exact hholds (threeRotations.take 3) (threeRotations.drop 4) rfl (by decide)
  · have hnone : ¬ ((pairKeeper.after threeRotations).numbered 3).isSome = true :=
      fun h => absurd ((hexists 3).mp h).2 (by decide)
    simpa using hnone

/-! ### Numbers that are left -/

section Numbers

variable {a : Archive} {name : String}

theorem mem_numbers (hname : a.name = some name) {n : Nat} :
    n ∈ backupNumbers name a.others ↔ 0 < n ∧ (a.numbered n).isSome = true := by
  rw [mem_backupNumbers, numbered, hname, Option.bind_some]

/-- Which numbers there are after a rotation: one, the numbers above those that there were up to the
count, with the count itself if it was there, and all that were there further up. -/
theorem mem_numbers_rotate (hname : a.name = some name) (hcount : 1 ≤ a.settings.backupCount.toNat)
    (n : Nat) :
    n ∈ backupNumbers name a.rotate.others ↔
      n = 1 ∨
      (2 ≤ n ∧ n ≤ a.settings.backupCount.toNat ∧ (n - 1 ∈ backupNumbers name a.others ∨
        n = a.settings.backupCount.toNat ∧ n ∈ backupNumbers name a.others)) ∨
      (a.settings.backupCount.toNat < n ∧ n ≠ behind a.settings) ∧ n ∈ backupNumbers name a.others := by
  rw [mem_numbers ((settings_rotate a).2.1.trans hname), mem_numbers hname, mem_numbers hname,
    numbered_rotate hname hcount]
  have hbehind := behind_cases a.settings
  generalize behind a.settings = last at hbehind
  generalize a.settings.backupCount.toNat = count at hcount hbehind
  rcases Nat.lt_trichotomy n 1 with hzero | hone | hmore
  · have hlow : ¬ 0 < n ∧ n ≠ 1 ∧ ¬ 2 ≤ n ∧ ¬ count < n := by omega
    simp only [hlow, false_and, or_false]
  · simp [hone]
  · by_cases hwithin : n ≤ count
    · have hplace : n ≠ 1 ∧ n ≠ last ∧ 2 ≤ n ∧ ¬ count < n ∧ 0 < n - 1 ∧ 0 < n := by omega
      simp only [hplace, hwithin, if_false, and_self, if_true, Option.isSome_or]
      grind
    · have hplace : n ≠ 1 ∧ count < n ∧ 0 < n := by omega
      by_cases hlast : n = last
      · subst hlast
        simp [hplace, hwithin]
      · simp [hplace, hwithin, hlast]

/-- Where the number behind the count is one of 32 bits, those left further up are all beyond it. -/
theorem mem_numbers_rotate_kept (hname : a.name = some name) (hcount : KeepsBackups a.settings)
    (n : Nat) :
    n ∈ backupNumbers name a.rotate.others ↔
      n = 1 ∨
      (2 ≤ n ∧ n ≤ a.settings.backupCount.toNat ∧ (n - 1 ∈ backupNumbers name a.others ∨
        n = a.settings.backupCount.toNat ∧ n ∈ backupNumbers name a.others)) ∨
      a.settings.backupCount.toNat + 1 < n ∧ n ∈ backupNumbers name a.others := by
  have hbeyond : a.settings.backupCount.toNat < n ∧ n ≠ a.settings.backupCount.toNat + 1 ↔
      a.settings.backupCount.toNat + 1 < n := by omega
  rw [mem_numbers_rotate hname hcount.1, hcount.behind_eq, hbeyond]

/-- Up to the count there are at most as many numbers as it tells. -/
theorem length_numbers_le (name : String) (files : Folder) (count : Nat) :
    ((backupNumbers name files).filter (· ≤ count)).length ≤ count := by
  have hnodup := (nodup_backupNumbers name files).filter (· ≤ count)
  have hwithin : (backupNumbers name files).filter (· ≤ count) ⊆ List.range' 1 count := by
    intro n hn
    rw [List.mem_filter, decide_eq_true_eq] at hn
    rw [List.mem_range'_1]
    have hpositive := (mem_backupNumbers.mp hn.1).1
    omega
  simpa using (List.subperm_of_subset hnodup hwithin).length_le

/-- Numbers are those up to the count and those beyond it, which a rotation leaves alone. -/
theorem length_numbers_rotate (hname : a.name = some name) (hcount : KeepsBackups a.settings) :
    (backupNumbers name a.rotate.others).length =
      ((backupNumbers name a.rotate.others).filter (· ≤ a.settings.backupCount.toNat)).length +
        ((backupNumbers name a.others).filter (a.settings.backupCount.toNat + 1 < ·)).length := by
  have hmem := mem_numbers_rotate_kept hname hcount
  have hpositive := hcount.1
  have hbeyond : ((backupNumbers name a.rotate.others).filter fun n =>
      !decide (n ≤ a.settings.backupCount.toNat)).Perm
        ((backupNumbers name a.others).filter (a.settings.backupCount.toNat + 1 < ·)) := by
    refine (List.perm_ext_iff_of_nodup ((nodup_backupNumbers _ _).filter _)
      ((nodup_backupNumbers _ _).filter _)).mpr fun n => ?_
    simp only [List.mem_filter, hmem, Bool.not_eq_true', decide_eq_false_iff_not, decide_eq_true_eq]
    grind
  rw [← hbeyond.length_eq, ← List.length_eq_length_filter_add]

/-- No run reaches the numbers beyond the count. -/
theorem mem_numbers_after (hname : a.name = some name) (hcount : KeepsBackups a.settings)
    (moves : List Move) {n : Nat} (hn : a.settings.backupCount.toNat + 1 < n) :
    n ∈ backupNumbers name (a.after moves).others ↔ n ∈ backupNumbers name a.others := by
  induction moves generalizing a with
  | nil => rfl
  | cons m rest ih =>
    obtain ⟨hsettings, hsame⟩ := settings_act a m
    refine (ih (hsame.trans hname) (hsettings ▸ hcount) (hsettings ▸ hn)).trans ?_
    cases m with
    | call now call => rfl
    | rotate =>
      have hplace : n ≠ 1 ∧ ¬ n ≤ a.settings.backupCount.toNat := by omega
      refine (mem_numbers_rotate_kept hname hcount n).trans ?_
      simp [hplace, hn]

/-- A run makes no number above a bound that its count and the numbers at first keep to. -/
theorem numbers_after_le {bound : Nat} (hname : a.name = some name)
    (hcount : a.settings.backupCount.toNat ≤ bound)
    (h : ∀ n ∈ backupNumbers name a.others, n ≤ bound) (moves : List Move) :
    ∀ n ∈ backupNumbers name (a.after moves).others, n ≤ bound := by
  induction moves generalizing a with
  | nil => exact h
  | cons m rest ih =>
    obtain ⟨hsettings, hsame⟩ := settings_act a m
    refine ih (hsame.trans hname) (hsettings ▸ hcount) fun n hn => ?_
    cases m with
    | call now call => exact h n hn
    | rotate =>
      change n ∈ backupNumbers name a.rotate.others at hn
      by_cases hzero : a.settings.backupCount.toNat = 0
      · rw [rotate_of_zero hzero] at hn
        exact h n hn
      · have hpositive : 1 ≤ a.settings.backupCount.toNat := by omega
        rcases (mem_numbers_rotate hname hpositive n).mp hn with rfl | ⟨-, hle, -⟩ | ⟨-, hold⟩
        · omega
        · omega
        · exact h n hold

/-- Where no number is beyond the one behind the count, a rotation leaves no more than the count. -/
theorem length_rotate_le (hname : a.name = some name) (hcount : KeepsBackups a.settings)
    (h : ∀ n ∈ backupNumbers name a.others, n ≤ a.settings.backupCount.toNat + 1) :
    (backupNumbers name a.rotate.others).length ≤ a.settings.backupCount.toNat := by
  have hnone : (backupNumbers name a.others).filter (a.settings.backupCount.toNat + 1 < ·) = [] :=
    List.filter_eq_nil_iff.mpr fun n hn => by simpa using h n hn
  rw [length_numbers_rotate hname hcount, hnone, List.length_nil, Nat.add_zero]
  exact length_numbers_le _ _ _

end Numbers

/-! ### Other counts -/

/-- The files of a folder after some sessions with a database in it, each with settings of its own. -/
def lived (name : String) (sessions : List (StorageSettings × List Move)) (files : Folder) : Folder :=
  sessions.foldl (fun files s => ((opened s.1 name files).after s.2).folder) files

/-- Opening a database leaves all of its backups where they are. -/
theorem numbers_opened (settings : StorageSettings) (name : String) (files : Folder) :
    (backupNumbers name (opened settings name files).others).Perm (backupNumbers name files) := by
  refine (List.perm_ext_iff_of_nodup (nodup_backupNumbers _ _) (nodup_backupNumbers _ _)).mpr
    fun n => ?_
  rw [mem_backupNumbers, mem_backupNumbers, opened, Table.get?_erase,
    if_neg (backupName_ne name n).symm]

theorem mem_numbers_folder {a : Archive} {name : String} (hname : a.name = some name) (n : Nat) :
    n ∈ backupNumbers name a.folder ↔ n ∈ backupNumbers name a.others := by
  have hfolder : a.folder = a.others.insert name a.database.contents := by
    simp only [folder, hname]
  rw [mem_backupNumbers, mem_backupNumbers, hfolder, Table.get?_insert,
    if_neg (backupName_ne name n).symm]

/-- Sessions with counts up to a bound leave no number above it. -/
theorem numbers_lived_le {name : String} {bound : Nat} {sessions : List (StorageSettings × List Move)}
    (hcounts : ∀ s ∈ sessions, s.1.backupCount.toNat ≤ bound) {files : Folder}
    (h : ∀ n ∈ backupNumbers name files, n ≤ bound) :
    ∀ n ∈ backupNumbers name (lived name sessions files), n ≤ bound := by
  induction sessions generalizing files with
  | nil => exact h
  | cons s rest ih =>
    refine ih (fun s' hs' => hcounts s' (List.mem_cons_of_mem s hs')) fun n hn => ?_
    have hname : ((opened s.1 name files).after s.2).name = some name :=
      (settings_after (opened s.1 name files) s.2).2
    rw [mem_numbers_folder hname] at hn
    refine numbers_after_le (a := opened s.1 name files) rfl (hcounts s List.mem_cons_self) ?_ s.2 n hn
    exact fun k hk => h k ((numbers_opened s.1 name files).mem_iff.mp hk)

/-- After a rotation number one is there, each number above one that was there, up to the count, and
every number beyond the one behind the count that was there before: those stay for good, whatever
happens under this count. So there are at most as many up to the count as are to be kept, and the
others come on top. If backups are only ever left by sessions whose counts were at most one greater,
there are none of them, and the bound is kept. -/
theorem rotate_numbers (name : String) {settings : StorageSettings} (hcount : KeepsBackups settings) :
    (∀ files : Folder,
      let count := settings.backupCount.toNat
      let a := opened settings name files
      let before := backupNumbers name files
      let left := backupNumbers name a.rotate.others
      (∀ n, n ∈ left ↔ n = 1 ∨
        (2 ≤ n ∧ n ≤ count ∧ (n - 1 ∈ before ∨ n = count ∧ n ∈ before)) ∨
        count + 1 < n ∧ n ∈ before) ∧
      (left.filter (· ≤ count)).length ≤ count ∧
      left.length = (left.filter (· ≤ count)).length + (before.filter (count + 1 < ·)).length ∧
      ∀ moves n, count + 1 < n →
        (n ∈ backupNumbers name (a.after moves).others ↔ n ∈ before)) ∧
    ∀ sessions : List (StorageSettings × List Move),
      (∀ s ∈ sessions, s.1.backupCount.toNat ≤ settings.backupCount.toNat + 1) →
        (backupNumbers name
          (opened settings name (lived name sessions .empty)).rotate.others).length ≤
            settings.backupCount.toNat := by
  constructor
  · intro files
    have hsame := numbers_opened settings name files
    have hrotated := mem_numbers_rotate_kept (a := opened settings name files) rfl hcount
    have hlength := length_numbers_rotate (a := opened settings name files) rfl hcount
    rw [(hsame.filter _).length_eq] at hlength
    simp only [hsame.mem_iff] at hrotated
    refine ⟨hrotated, length_numbers_le _ _ _, hlength, fun moves n hn => ?_⟩
    exact (mem_numbers_after (a := opened settings name files) rfl hcount moves hn).trans hsame.mem_iff
  · intro sessions hcounts
    refine length_rotate_le (a := opened settings name _) rfl hcount fun n hn => ?_
    rw [(numbers_opened _ _ _).mem_iff] at hn
    have hempty : ∀ n ∈ backupNumbers name .empty, n ≤ settings.backupCount.toNat + 1 :=
      fun _ h => nomatch h
    exact numbers_lived_le hcounts hempty n hn

def fiveKept : List (StorageSettings × List Move) := [({ backupCount := 5 }, List.replicate 5 .rotate)]

/-- Two backups are to be kept of a database of which five were. -/
def lowered : Archive := opened { backupCount := 2 } "bot.db" (lived "bot.db" fiveKept .empty)

theorem rotate_numbers_lowered :
    KeepsBackups { backupCount := 2 } ∧
      5 ∈ backupNumbers "bot.db" (lowered.after threeRotations).others := by
  have hcount : KeepsBackups { backupCount := 2 } := by decide
  obtain ⟨-, -, -, hstay⟩ := (rotate_numbers "bot.db" hcount).1 (lived "bot.db" fiveKept .empty)
  exact ⟨hcount, (hstay threeRotations 5 (by decide)).mpr (by decide +kernel)⟩

/-- Where the count was greater before, more backups stay than are to be kept. -/
theorem leftovers_exceed_count :
    KeepsBackups lowered.settings ∧ (∀ s ∈ fiveKept, KeepsBackups s.1) ∧
      backupNumbers "bot.db" lowered.rotate.others = [1, 2, 4, 5] ∧
      ¬ (backupNumbers "bot.db" lowered.rotate.others).length ≤ lowered.settings.backupCount.toNat := by
  have hnumbers : backupNumbers "bot.db" lowered.rotate.others = [1, 2, 4, 5] := by decide +kernel
  refine ⟨by decide, by decide, hnumbers, ?_⟩
  rw [hnumbers]
  decide

end Archive

end Companion
