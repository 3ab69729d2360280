import Companion.Storage.Memory
import Companion.Store

/-!
Records, stores and replies of a chosen size, for measuring.
-/

namespace Companion.Fixtures

open Time

def populatedUser (now : Instant) (id : Int64) (facts : Nat) : UserRecord :=
  let settings : RecordSettings := {}
  let named := { UserRecord.blank settings id now with username := some ("user_" ++ toString id) }
  let known := (named.mergeFacts ((List.range facts).map fun i =>
    ("fact_" ++ toString i, "value number " ++ toString i))).1
  (List.range settings.historyCapacity).foldl (fun user i =>
    user.pushHistory settings.historyCapacity
      ⟨if i % 2 = 0 then .user else .assistant,
        "message " ++ toString i ++ " with a little bit of text in it", now⟩) known

def populatedStore (now : Instant) (users : Nat) : Store Memory :=
  (List.range users).foldl (fun s i => s.save (populatedUser now (.ofNat (i + 1)) 8))
    { slots := .empty }

/-- The directive with a number: an update for an even one, a reminder for an odd one. -/
def directive (i : Nat) : String :=
  let n := toString i
  if i % 2 = 0 then
    " Noted [UPDATE: \x7b\"key_" ++ n ++ "\": \"value " ++ n ++ "\", \"n\": " ++ n ++ "\x7d]"
  else " and [REMIND: \x7b\"minutes\": " ++ n ++ ", \"text\": \"ping " ++ n ++ "\"\x7d]"

def replyWithDirectives (n : Nat) : String :=
  "Sure thing." ++ String.join ((List.range n).map directive) ++ " Talk soon!"

end Companion.Fixtures
