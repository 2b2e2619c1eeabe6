/-!
# Chains of causes

A failure from outside comes with what it was caused by, which may have a cause of its own.
-/

namespace Tenancy

/-- A failure and its causes, the immediate one first. -/
structure Chain where
  message : String
  causes : List String
  deriving DecidableEq, Repr, Inhabited

namespace Chain

/-- A failure without a known cause. -/
def single (message : String) : Chain := ⟨message, []⟩

/-- The messages of a failure and all its causes. -/
def messages (c : Chain) : List String := c.message :: c.causes

/-- The whole chain on one line. -/
def line (c : Chain) : String := ": ".intercalate c.messages

end Chain

end Tenancy
