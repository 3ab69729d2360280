import Companion.Record.Conversation
import Companion.Table

/-!
Slots: octets under addresses. A backend keeps slots and only moves their octets. Each of its calls
answers or fails, and either way leaves a state behind.
-/

namespace Companion

open Number Text Time

structure Address where
  space : String
  key : String
  deriving DecidableEq, Repr

namespace Address

/-- Addresses go by namespace, and within one by key. -/
instance : LT Address where
  lt a b := a.space < b.space ∨ a.space = b.space ∧ a.key < b.key

instance : DecidableLT Address := fun a b =>
  inferInstanceAs (Decidable (a.space < b.space ∨ a.space = b.space ∧ a.key < b.key))

/-- The order of addresses, spelled out. -/
theorem lt_def {a b : Address} :
    a < b ↔ a.space < b.space ∨ a.space = b.space ∧ a.key < b.key := Iff.rfl

/-- The order of addresses is transitive. -/
theorem lt_trans {a b c : Address} (hab : a < b) (hbc : b < c) : a < c := by
  rw [lt_def] at *
  rcases hab with hab | ⟨eab, hab⟩ <;> rcases hbc with hbc | ⟨ebc, hbc⟩
  · exact .inl (String.lt_trans hab hbc)
  · exact .inl (ebc ▸ hab)
  · exact .inl (eab ▸ hbc)
  · exact .inr ⟨eab.trans ebc, String.lt_trans hab hbc⟩

/-- Two different addresses are in order one way or the other. -/
theorem eq_of_not_lt {a b : Address} (hab : ¬ a < b) (hba : ¬ b < a) : a = b := by
  rw [lt_def, not_or] at hab hba
  obtain ⟨sa, ka⟩ := a
  obtain ⟨sb, kb⟩ := b
  obtain rfl : sa = sb := String.le_antisymm hba.1 hab.1
  obtain rfl : ka = kb :=
    String.le_antisymm (fun h => hba.2 ⟨rfl, h⟩) (fun h => hab.2 ⟨rfl, h⟩)
  rfl

instance : OrderedKey Address := ⟨lt_trans, eq_of_not_lt⟩

end Address

inductive StoreError
  | serialization (reason : String)
  | corruptSlot (kind : RecordKind) (id : String) (reason : String)
  | database
  | configuration (reason : String)
  | io (reason : String)
  deriving DecidableEq, Repr

def StoreError.message : StoreError → String
  | .serialization reason => "Serialization error: " ++ reason
  | .corruptSlot kind id reason => "Corrupt " ++ kind.name ++ " slot " ++ id ++ ": " ++ reason
  | .database => "Database error"
  | .configuration reason => "Configuration error: " ++ reason
  | .io reason => "I/O error: " ++ reason

/-- Keepers of slots. `quarantine` moves a slot into another namespace, under a key that tells the
time, and gives that key if there was a slot. -/
class Backend (σ : Type) where
  read : Address → σ → Except StoreError (Option Octets) × σ
  write : Address → Octets → σ → Except StoreError Unit × σ
  list : String → σ → Except StoreError (List (String × Octets)) × σ
  remove : Address → σ → Except StoreError Bool × σ
  quarantine : Instant → Address → String → σ → Except StoreError (Option String) × σ

def backupKey (key : String) (now : Instant) : String :=
  key ++ ".corrupt." ++ String.ofList (writeInt now.millis)

/-- Moving a slot aside by three calls: it is read, written to its new place, and removed. The first
one to fail is the last. -/
def moveAside {σ : Type} (read : Address → σ → Except StoreError (Option Octets) × σ)
    (write : Address → Octets → σ → Except StoreError Unit × σ)
    (remove : Address → σ → Except StoreError Bool × σ)
    (now : Instant) (slot : Address) (space : String) (s : σ) :
    Except StoreError (Option String) × σ :=
  match read slot s with
  | (.error e, s) => (.error e, s)
  | (.ok none, s) => (.ok none, s)
  | (.ok (some data), s) =>
    let key := backupKey slot.key now
    match write ⟨space, key⟩ data s with
    | (.error e, s) => (.error e, s)
    | (.ok (), s) =>
      match remove slot s with
      | (.error e, s) => (.error e, s)
      | (.ok _, s) => (.ok (some key), s)

end Companion
