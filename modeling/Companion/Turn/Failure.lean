import Companion.Model.Provider
import Companion.Storage.Slot

/-!
What can go wrong with turns: in the store, in the model, by taking too long, or in the settings.
-/

namespace Companion

inductive TurnError
  | storage (error : StoreError)
  | generation (error : ModelError)
  | timedOut (millis : UInt64)
  | configuration (reason : String)
  deriving DecidableEq, Repr

def TurnError.message : TurnError → String
  | .storage e => "storage error: " ++ e.message
  | .generation e => "generation failed: " ++ e.message
  | .timedOut millis => "generation timed out after " ++ toString millis ++ "ms"
  | .configuration reason => "configuration error: " ++ reason

end Companion
