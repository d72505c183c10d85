import Mathlib

/-! The history of a one-way link with an output queue in front of it.
Cells are offered to the queue, handed over from it, or discarded all at once. The history
records what was offered and what became of it, but not the queue: the question is when the
delivered cells are the offered ones in order, without a gap, given what still waits.
-/

/-- What was offered to a link, delivered by it and lost from its queue. `late` are the cells
that were delivered after others had been lost.
-/
structure OutputLink (α : Type) where
  offered : List α
  delivered : List α
  lost : List α
  late : List α
  deriving DecidableEq, Repr

namespace OutputLink

variable {α : Type}

/-- A link nothing was offered to. -/
def fresh : OutputLink α :=
  { offered := [], delivered := [], lost := [], late := [] }

def offer (link : OutputLink α) (cells : List α) : OutputLink α :=
  { link with offered := link.offered ++ cells }

/-- Delivers the cells that were handed over. -/
def deliver (link : OutputLink α) (cells : List α) : OutputLink α :=
  {
    link with
    delivered := link.delivered ++ cells
    late := if link.lost.isEmpty then link.late else link.late ++ cells
  }

/-- Loses the cells that still wait. -/
def discard (link : OutputLink α) (waiting : List α) : OutputLink α :=
  { link with lost := link.lost ++ waiting }

/-- What was delivered is the front of what was offered, and nothing followed a loss. -/
structure InOrder (link : OutputLink α) : Prop where
  delivered_prefix : link.delivered <+: link.offered
  prompt : link.late = []

/-- Nothing was lost: what was offered is what was delivered and what still waits. -/
structure Gapless (link : OutputLink α) (waiting : List α) : Prop where
  kept : link.lost = []
  prompt : link.late = []
  offered_eq : link.offered = link.delivered ++ waiting

variable {link : OutputLink α} {waiting : List α}

theorem gapless_fresh : (fresh : OutputLink α).Gapless [] := ⟨rfl, rfl, rfl⟩

theorem Gapless.offer (gapless : link.Gapless waiting) (cells : List α)
    : (link.offer cells).Gapless (waiting ++ cells) :=
  ⟨gapless.kept, gapless.prompt, by simp [OutputLink.offer, gapless.offered_eq]⟩

/-- Handing over the front of the queue leaves no gap if it leaves the queue. -/
theorem Gapless.deliver (gapless : link.Gapless waiting) (count : Nat)
    : (link.deliver (waiting.take count)).Gapless (waiting.drop count) := by
  refine ⟨gapless.kept, ?_, ?_⟩
  · simp only [OutputLink.deliver, gapless.kept, List.isEmpty_nil, if_true, gapless.prompt]
  · simp only [OutputLink.deliver, gapless.offered_eq, List.append_assoc,
      List.take_append_drop]

theorem Gapless.inOrder (gapless : link.Gapless waiting) : link.InOrder :=
  ⟨gapless.offered_eq ▸ List.prefix_append _ _, gapless.prompt⟩

theorem Gapless.discard_inOrder (gapless : link.Gapless waiting)
    : (link.discard waiting).InOrder :=
  ⟨gapless.inOrder.delivered_prefix, gapless.prompt⟩

end OutputLink
