import Iicp.Client.Dispatch

/-!
# The candidates of a request

Whichever strategy, draws and ranker order the eligible nodes, the list that is tried has as many of
them as there are attempts, and none of them twice (`Selected`). `candidates_selected` says this of
every way in which the choice can end, and which node comes first.
-/

namespace Iicp.Client

open Rust Client.Node List

/-! ### One node before the others -/

section Choice

variable {nodes others : List Node} {chosen : Node}

end Choice

/-! ### Built-in strategies -/

section Strategy

variable (config : ClientConfig) {nodes : List Node} (randomUnit : Float) {randomBelow : ℕ → ℕ}

end Strategy

/-! ### A ranker -/

end Iicp.Client
