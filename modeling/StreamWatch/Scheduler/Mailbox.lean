/-
**A mailbox that keeps only the latest messages.**

* `size_post_le`: a mailbox never holds more than its capacity;
* `total_post`: every message posted is either held or counted as lost.
-/

namespace StreamWatch

/-- Messages that wait to be collected, the oldest first. -/
structure Mailbox (α : Type) where
  held : List α := []
  /-- the messages that gave way to later ones since the last collection -/
  lost : Nat := 0
deriving Inhabited

namespace Mailbox

variable {α : Type}

/-- The largest number of messages that wait. -/
def capacity : Nat := 64

/-- The mailbox with a message more. When it is full the oldest message gives way. -/
def post (message : α) (mailbox : Mailbox α) : Mailbox α :=
  if mailbox.held.length < capacity then { mailbox with held := mailbox.held ++ [message] }
  else ⟨mailbox.held.drop 1 ++ [message], mailbox.lost + 1⟩

/-- A mailbox never holds more than its capacity. -/
theorem size_post_le (message : α) {mailbox : Mailbox α} (small : mailbox.held.length ≤ capacity) :
    (mailbox.post message).held.length ≤ capacity := by
  unfold post
  split
  · simpa using ‹_›
  · simp [capacity] at *
    omega

/-- Every message posted is either held or counted as lost. -/
theorem total_post (message : α) (mailbox : Mailbox α) :
    (mailbox.post message).held.length + (mailbox.post message).lost =
      mailbox.held.length + mailbox.lost + 1 := by
  unfold post
  split
  · simp; omega
  · simp [capacity] at *
    omega

end Mailbox
end StreamWatch
