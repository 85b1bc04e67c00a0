import ScalingMetrics.Text.Pieces

/-!
# Causes of failures

A failure is told as a chain of messages from the outermost context to the root cause.
-/

namespace ScalingMetrics

/-- A chain of messages, outermost first. -/
structure Cause where
  messages : List String
deriving DecidableEq

namespace Cause

/-- A cause without context. -/
def root (message : String) : Cause := ⟨[message]⟩

/-- The chain of messages from the root cause to the outermost context. -/
def ofInnermost (messages : List String) : Cause := ⟨messages.reverse⟩

/-- A cause in a wider context. -/
def inContext (c : Cause) (message : String) : Cause := ⟨message :: c.messages⟩

/-- The chain as one line. -/
def render (c : Cause) : String := Text.joinStrings ": " c.messages

/-- The outermost message. -/
def outermost (c : Cause) : String := c.messages.headD ""

end Cause

end ScalingMetrics
