/-
# Reading a value off the front

A reader reads a value off the front of its input when it gives the value and leaves the rest of
the input.  Readings compose as readers do, so that what a reader makes of a written message is put
together from what its parts make of the parts.  The readers of texts and of byte sequences differ
in the symbols that they read and in the reasons that they give for a failure.
-/

namespace SupportDesk

variable {m : Type → Type} [Monad m] {κ α β : Type} {a : α} {b : β}
variable {r : StateT (List κ) m α} {input mid rest : List κ}

/-- A reader takes a value off the front of its input and leaves the rest. -/
def Reads (r : StateT (List κ) m α) (input : List κ) (a : α) (rest : List κ) : Prop :=
  r.run input = pure (a, rest)

theorem reads_pure : Reads (pure a : StateT (List κ) m α) input a input := rfl

theorem reads_get : Reads (get : StateT (List κ) m (List κ)) input input input := rfl

variable [LawfulMonad m]

theorem Reads.bind {f : α → StateT (List κ) m β} (h : Reads r input a mid)
    (hf : Reads (f a) mid b rest) : Reads (r >>= f) input b rest := by
  rw [Reads, StateT.run_bind, show r.run input = pure (a, mid) from h, pure_bind]
  exact hf

theorem Reads.map {f : α → β} (h : Reads r input a rest) : Reads (f <$> r) input (f a) rest := by
  rw [Reads, StateT.run_map, show r.run input = pure (a, rest) from h, map_pure]

end SupportDesk
