/-
**A duplex channel.**

Two sides send each other items. Each side has a queue of items that wait for it; an item that finds
the queue full is dropped, and an item that does not fit is not sent. Time passes in steps that follow
each other closely enough, and there may be noise on the line that changes nothing.

`Step` says what each operation does to the queues and what it returns. The channel answers for as
many operations as its budget says: whoever implements it may run out of numbers.
-/

import Mathlib.Logic.Function.Basic

namespace Duplex

inductive Side where
  | left
  | right
  deriving DecidableEq

def Side.other : Side → Side
  | .left => .right
  | .right => .left

/-- What is done to the channel: `α` are the items, `τ` the times and `ν` the noise. -/
inductive Op (α τ ν : Type) where
  | send (side : Side) (item : α)
  | receive (side : Side)
  | pass (time : τ)
  | disturb (noise : ν)

/-- The items that wait for each side, oldest first, the time, and how many more operations the
channel answers for. -/
structure Channel (α τ : Type) where
  waiting : Side → List α
  now : τ
  budget : Nat

/-- How many items wait at most, which items are sent, which times follow each other closely enough,
and which noise the channel stands. -/
structure Terms (α τ ν : Type) where
  capacity : Nat
  fits : α → Prop
  paced : τ → τ → Prop
  harmless : ν → Prop

variable {α τ ν : Type}

/-- An item arrives at a queue. -/
def offer (capacity : Nat) (queue : List α) (item : α) : List α :=
  if queue.length < capacity then queue ++ [item] else queue

/-- **One operation**: the channel before and after it, and what it returns. -/
inductive Step (terms : Terms α τ ν) : Channel α τ → Op α τ ν → Channel α τ → Option α → Prop
  | send (waiting : Side → List α) (now : τ) (budget : Nat) (side : Side) (item : α)
      (fits : terms.fits item) :
      Step terms ⟨waiting, now, budget + 1⟩ (.send side item)
        ⟨Function.update waiting side.other (offer terms.capacity (waiting side.other) item), now,
          budget⟩ none
  | refuse (channel : Channel α τ) (side : Side) (item : α) (large : ¬ terms.fits item) :
      Step terms channel (.send side item) channel none
  | receive (channel : Channel α τ) (side : Side) :
      Step terms channel (.receive side)
        { channel with waiting := Function.update channel.waiting side (channel.waiting side).tail }
        (channel.waiting side).head?
  | pass (waiting : Side → List α) (now : τ) (budget : Nat) (time : τ) (paced : terms.paced now time) :
      Step terms ⟨waiting, now, budget + 1⟩ (.pass time) ⟨waiting, time, budget⟩ none
  | disturb (channel : Channel α τ) (noise : ν) (harmless : terms.harmless noise) :
      Step terms channel (.disturb noise) channel none

end Duplex
