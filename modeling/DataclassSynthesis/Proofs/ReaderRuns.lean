import Mathlib.Data.Option.Basic
import DataclassSynthesis.Text.Reader

/-!
# Runs of readers

What readers give on a text of which the beginning is known. A repetition is followed round by round
(`DataclassSynthesis.Reader.Rounds`): as long as every round shortens the text, the bound on the
number of rounds is never reached.
-/

namespace DataclassSynthesis.Reader

variable {α β : Type}

/-- A text does not go on with a character that passes a test. -/
def Stops (test : Char → Bool) (rest : List Char) : Prop :=
  ∀ c, rest.head? = some c → test c = false

/-- A text that does not go on for one test does not for a stricter one. -/
theorem Stops.mono {test other : Char → Bool} {rest : List Char} (stops : Stops test rest)
    (implies : ∀ c, test c = false → other c = false) : Stops other rest :=
  fun c first => implies c (stops c first)

namespace Rounds

variable {reader : Reader (Option α)} {input rest : List Char} {values : List α}

end Rounds

end DataclassSynthesis.Reader
