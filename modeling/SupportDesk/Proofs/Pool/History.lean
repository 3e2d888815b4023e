/-
# What a run has created

The history of a run is read off its events: the identifiers that it has given out, in order.
A run draws once if its sessions all enter by creation and no identifier is given out twice.
Such a run never creates a session that the pool has, which is all that its consistency needs,
and whoever is in the pool was created in it.
-/

import SupportDesk.Proofs.Pool.Stage

namespace SupportDesk.Pool.Situation

/-- The identifiers that a run gives out, in order. -/
def created : Situation → List Event → List SessionId
  | _, [] => []
  | s, e :: events => (s.drawn e).toList ++ (s.step e).created events

@[simp] theorem created_nil (s : Situation) : s.created [] = [] := rfl

theorem created_append (s : Situation) (first second : List Event) :
    s.created (first ++ second) = s.created first ++ (s.run first).created second := by
  induction first generalizing s with
  | nil => rfl
  | cons e first ih => rw [List.cons_append, created, created, ih, List.append_assoc, run_cons]

theorem created_concat (s : Situation) (events : List Event) (e : Event) :
    s.created (events ++ [e]) = s.created events ++ ((s.run events).drawn e).toList := by
  rw [created_append, created, created_nil, List.append_nil]

/-- No session comes from outside, and no identifier is given out twice. -/
structure DrawsOnce (s : Situation) (events : List Event) : Prop where
  within : ∀ a, Event.allocate a ∉ events
  nodup : (s.created events).Nodup

namespace DrawsOnce

variable {s : Situation} {first second events : List Event} {e : Event}

theorem init (h : s.DrawsOnce (first ++ second)) : s.DrawsOnce first := by
  constructor
  · intro a ha
    exact h.within a (List.mem_append_left second ha)
  · have hnodup := h.nodup
    rw [created_append] at hnodup
    exact (List.nodup_append'.mp hnodup).1

/-- What is given out later was not given out before. -/
theorem not_mem_created (h : s.DrawsOnce (first ++ second)) {id : SessionId}
    (hid : id ∈ s.created first) : id ∉ (s.run first).created second := by
  have hnodup := h.nodup
  rw [created_append] at hnodup
  exact fun hlater => (List.nodup_append'.mp hnodup).2.2 hid hlater

/-- Without sessions from outside only creations bring sessions into the pool. -/
theorem enters_eq_drawn (h : s.DrawsOnce (events ++ [e])) (t : Situation) :
    t.enters e = t.drawn e := by
  cases e with
  | allocate a => exact absurd (List.mem_append_right events List.mem_cons_self) (h.within a)
  | _ => rfl

end DrawsOnce

/-- What a run leaves that draws once: a consistent pool whose sessions it has created. -/
structure Traced (s : Situation) (events : List Event) : Prop where
  consistent : (s.run events).pool.Consistent
  mem_created : ∀ id, (s.run events).pool.contains id = true → id ∈ s.created events

namespace Traced

variable {s : Situation} {events : List Event} {e : Event}

/-- The next creation draws an identifier that the pool does not have. -/
theorem drawsNew (h : s.Traced events) (honce : s.DrawsOnce (events ++ [e])) :
    (s.run events).DrawsNew e := by
  intro id hid
  by_contra hin
  have hbefore := h.mem_created id (by simpa using hin)
  apply honce.not_mem_created hbefore
  simp [created, hid]

theorem concat (h : s.Traced events) (honce : s.DrawsOnce (events ++ [e])) :
    s.Traced (events ++ [e]) := by
  have hnew := h.drawsNew honce
  have hnext := hnew.consistent_step h.consistent
  have hend : s.run (events ++ [e]) = (s.run events).step e := by
    rw [run_append]
    rfl
  constructor
  · rw [hend]
    exact hnext
  · intro id hin
    rw [hend] at hin
    rw [created_concat, List.mem_append, Option.mem_toList]
    by_cases hid : (s.run events).drawn e = some id
    · exact .inr hid
    · apply Or.inl
      apply h.mem_created
      -- An unknown session could not have become known.
      by_contra hout
      have hleads := stage_step hnew h.consistent (honce.enters_eq_drawn _ ▸ hid)
      rw [h.consistent.stage_eq_absent_iff.mpr (by simpa using hout)] at hleads
      rw [hnext.stage_eq_absent_iff.mp hleads.absent_of_absent] at hin
      cases hin

end Traced

/-- A run from a new pool is traced by what it has created. -/
theorem DrawsOnce.traced {settings : PoolSettings} {now : Moment} {events : List Event}
    (h : (start settings now).DrawsOnce events) : (start settings now).Traced events := by
  induction events using List.reverseRecOn with
  | nil =>
      refine ⟨consistent_ofSettings settings now, ?_⟩
      intro id hin
      cases hin
  | append_singleton events e ih => exact (ih h.init).concat h

end SupportDesk.Pool.Situation
