/-
# Runs of a pool

What happens to a pool is a list of events, each of which acts on the pool at the moment
that the clock then shows.  The clock is moved by events of its own and may go backwards.
Laws of runs quantify over all lists of events that a guard admits, and follow from laws of
single events by induction on the list.
-/

import SupportDesk.Pool.Basic
import SupportDesk.Proofs.Calendar.Order

namespace SupportDesk.Pool

/-- Whether a session waits or is with an agent. -/
def contains (p : Pool) (id : SessionId) : Bool := p.backlog.contains id || p.allocated.contains id

/-- What can happen to a pool or to its clock. -/
inductive Event
  /-- A session is asked for; the identifier is the one it will be given. -/
  | create (id : SessionId)
  | prolong (id : SessionId)
  | destroy (id : SessionId)
  | allocate (s : Session)
  | sweep
  | drain
  | shiftChanged
  | setClock (now : Moment)
deriving DecidableEq, Repr

/-- A pool with the moment that its clock shows. -/
structure Situation where
  pool : Pool
  now : Moment
deriving DecidableEq, Repr

namespace Situation

/-- A new pool at the moment of its construction. -/
def start (settings : PoolSettings) (now : Moment) : Situation := ⟨.ofSettings settings now, now⟩

/-- What an event leaves.  A refused request leaves the pool as it was, and a sweep that is
cut short leaves what it had done. -/
def step (s : Situation) : Event → Situation
  | .create id => { s with pool := (s.pool.create? id s.now).getD s.pool }
  | .prolong id => { s with pool := (s.pool.prolong? id s.now).getD s.pool }
  | .destroy id => { s with pool := (s.pool.destroy id s.now).1 }
  | .allocate a => { s with pool := (s.pool.allocate? a s.now).getD s.pool }
  | .sweep => { s with pool := (s.pool.sweep s.now).pool }
  | .drain => { s with pool := (s.pool.drain s.now).1 }
  | .shiftChanged => { s with pool := s.pool.shiftChanged s.now }
  | .setClock now => { s with now }

/-- The answer to a request; events that cannot be refused are always granted. -/
def grants (s : Situation) : Event → Bool
  | .create id => (s.pool.create? id s.now).isSome
  | .prolong id => (s.pool.prolong? id s.now).isSome
  | .destroy id => (s.pool.destroy id s.now).2
  | .allocate a => (s.pool.allocate? a s.now).isSome
  | _ => true

/-- What a list of events leaves. -/
def run (s : Situation) (events : List Event) : Situation := events.foldl step s

@[simp] theorem run_nil (s : Situation) : s.run [] = s := rfl

@[simp] theorem run_cons (s : Situation) (e : Event) (events : List Event) :
    s.run (e :: events) = (s.step e).run events := rfl

theorem run_append (s : Situation) (first second : List Event) :
    s.run (first ++ second) = (s.run first).run second := List.foldl_append

/-- Each event of a list is admitted by a guard in the situation in which it comes. -/
def Admits (guard : Situation → Event → Prop) : Situation → List Event → Prop
  | _, [] => True
  | s, e :: events => guard s e ∧ Admits guard (s.step e) events

instance decidableAdmits (guard : Situation → Event → Prop) [∀ s e, Decidable (guard s e)] :
    (s : Situation) → (events : List Event) → Decidable (Admits guard s events)
  | _, [] => isTrue True.intro
  | s, e :: events =>
      have := decidableAdmits guard (s.step e) events
      inferInstanceAs (Decidable (guard s e ∧ Admits guard (s.step e) events))

/-- A session that is created draws an identifier that the pool does not have. -/
def Fresh (s : Situation) : Event → Prop
  | .create id => s.pool.contains id = false
  | .prolong _ | .destroy _ | .allocate _ | .sweep | .drain | .shiftChanged | .setClock _ => True

instance (s : Situation) : (e : Event) → Decidable (s.Fresh e)
  | .create id => inferInstanceAs (Decidable (s.pool.contains id = false))
  | .prolong _ | .destroy _ | .allocate _ | .sweep | .drain | .shiftChanged | .setClock _ =>
      inferInstanceAs (Decidable True)

variable {guard : Situation → Event → Prop}

/-- A property that every admitted event preserves holds at the end of a run. -/
theorem Admits.preserves {P : Situation → Prop} {s : Situation} {events : List Event}
    (h : Admits guard s events) (hstep : ∀ s e, guard s e → P s → P (s.step e)) (hs : P s) :
    P (s.run events) := by
  induction events generalizing s with
  | nil => exact hs
  | cons e events ih =>
      obtain ⟨hguard, hrest⟩ := h
      exact ih hrest (hstep s e hguard hs)

/-- A run is admitted by a weaker guard. -/
theorem Admits.mono {weaker : Situation → Event → Prop} {s : Situation} {events : List Event}
    (h : Admits guard s events) (hweaker : ∀ s e, guard s e → weaker s e) :
    Admits weaker s events := by
  induction events generalizing s with
  | nil => exact True.intro
  | cons e events ih => exact ⟨hweaker s e h.1, ih h.2⟩

theorem admits_append {s : Situation} {first second : List Event} :
    Admits guard s (first ++ second) ↔
      Admits guard s first ∧ Admits guard (s.run first) second := by
  induction first generalizing s with
  | nil => simp [Admits]
  | cons e first ih => simp [Admits, ih, and_assoc]

/-- Something has happened in the course of a run. -/
def Occurs (s : Situation) (events : List Event) (P : Situation → Event → Prop) : Prop :=
  ∃ before e after, events = before ++ e :: after ∧ P (s.run before) e

/-- What occurs in a longer run occurs before its last event or with it. -/
theorem occurs_concat_iff {s : Situation} {events : List Event} {e : Event}
    {P : Situation → Event → Prop} :
    Occurs s (events ++ [e]) P ↔ Occurs s events P ∨ P (s.run events) e := by
  constructor
  · rintro ⟨before, f, after, heq, hP⟩
    cases after using List.reverseRecOn with
    | nil =>
        obtain ⟨rfl, hlast⟩ := List.append_inj' heq rfl
        cases hlast
        exact .inr hP
    | append_singleton after g =>
        rw [← List.cons_append, ← List.append_assoc] at heq
        obtain ⟨rfl, -⟩ := List.append_inj' heq rfl
        exact .inl ⟨before, f, after, rfl, hP⟩
  · rintro (⟨before, f, after, rfl, hP⟩ | hP)
    · exact ⟨before, f, after ++ [e], by simp, hP⟩
    · exact ⟨events, e, [], rfl, hP⟩

theorem not_occurs_nil (s : Situation) (P : Situation → Event → Prop) : ¬ Occurs s [] P := by
  rintro ⟨before, e, after, heq, -⟩
  cases before <;> cases heq

end Situation

/-! ## A small desk -/

/-- A full hour of 10 October 2023. -/
def sampleHour (hour : Fin 24) : Moment := ⟨.sample, .onTheHour hour⟩

/-- One junior from 7 to 15 and two additional agents from 9 to 17, each with a single slot,
and a timeout of three seconds. -/
def smallDesk : PoolSettings where
  concurrency := 3
  timeout := .ofSeconds 3
  regular := [.ofShift 10 (.onTheHour 7) (.ofHours 8) .junior "Team 1"]
  additional :=
    [.ofWindow 100 (.onTheHour 9) (.onTheHour 17), .ofWindow 101 (.onTheHour 9) (.onTheHour 17)]

end SupportDesk.Pool
