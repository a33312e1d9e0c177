import Mathlib.Data.List.Basic
import Mathlib.Algebra.Order.Group.Nat
import Mathlib.Algebra.Ring.Int.Defs
import Mathlib.Algebra.Ring.Nat

/-
  Runs of a labelled transition system.

  A system is given by its step relation: a state, an event
  taken from the environment, the outputs of the step and
  the next state.  A run records every transition it makes,
  so that a statement about "every step of the run" is a
  statement about the members of a list.

  Key definitions include:
    * `Transition`
    * `Run`
    * `execute`

  Key theorems include:
    * `Run.prefix_run`
    * `Run.invariant_of_steps`
    * `Run.invariant`
    * `Run.mem_step`
    * `Run.balance`
    * `Run.fifo`
    * `run_of_execute`, `forall_event`, `exists_run`
    * `exists_of_descends`
    * `exists_sequence`
-/

------------------------------------------------------------
-- Transitions And Runs
------------------------------------------------------------

/- One transition, with everything observable about it. -/
structure Transition (S E O : Type) where
  pre : S
  event : E
  outputs : List O
  post : S

/-
  A finite run of `step` from one state to another, with the
  list of the transitions made, oldest first.
-/
inductive Run
    {S E O : Type}
    (step : S → E → List O → S → Prop) :
    S → List (Transition S E O) → S → Prop where
  | nil (s : S) : Run step s [] s
  | cons
      {s s' t : S}
      {e : E}
      {o : List O}
      {trace : List (Transition S E O)}
      (hStep : step s e o s')
      (hRest : Run step s' trace t) :
      Run step s (⟨s, e, o, s'⟩ :: trace) t

namespace Run

variable {S E O : Type}
variable {step : S → E → List O → S → Prop}

/- A run of no transition stays where it is. -/
theorem eq_of_nil
    {s t : S}
    (hRun : Run step s [] t) :
    s = t := by
  cases hRun
  rfl

/- Two runs compose. -/
theorem append
    {s t u : S}
    {first second : List (Transition S E O)}
    (hFirst : Run step s first t)
    (hSecond : Run step t second u) :
    Run step s (first ++ second) u := by
  induction hFirst with
  | nil => exact hSecond
  | cons hStep _ ih => exact cons hStep (ih hSecond)

/- A run splits at every point of its trace. -/
theorem split
    {s u : S}
    {first second : List (Transition S E O)}
    (hRun : Run step s (first ++ second) u) :
    ∃ t, Run step s first t ∧ Run step t second u := by
  induction first generalizing s with
  | nil => exact ⟨s, nil s, hRun⟩
  | cons transition first ih =>
      cases hRun with
      | cons hStep hRest =>
          rcases ih hRest with ⟨t, hFirst, hSecond⟩
          exact ⟨t, cons hStep hFirst, hSecond⟩

/- Every prefix of the trace of a run is a run. -/
theorem prefix_run
    {s u : S}
    {trace earlier : List (Transition S E O)}
    (hRun : Run step s trace u)
    (hPrefix : earlier <+: trace) :
    ∃ t, Run step s earlier t := by
  rcases hPrefix with ⟨later, rfl⟩
  rcases hRun.split with ⟨t, hEarlier, _⟩
  exact ⟨t, hEarlier⟩

/- Split off the last transition of a run. -/
theorem split_last
    {s u : S}
    {first : List (Transition S E O)}
    {last : Transition S E O}
    (hRun : Run step s (first ++ [last]) u) :
    Run step s first last.pre ∧
      step last.pre last.event last.outputs last.post ∧
      last.post = u := by
  rcases hRun.split with ⟨t, hFirst, hLast⟩
  cases hLast with
  | cons hStep hRest =>
      exact ⟨hFirst, hStep, hRest.eq_of_nil⟩

/- The last transition of a run ends where the run does. -/
theorem getLast?_post
    {s u : S}
    {trace : List (Transition S E O)}
    (hRun : Run step s trace u) :
    ∀ transition ∈ trace.getLast?, transition.post = u := by
  intro transition hLast
  rcases List.getLast?_eq_some_iff.mp hLast with
    ⟨first, rfl⟩
  exact hRun.split_last.2.2

/- Append one step to a run. -/
theorem snoc
    {s t u : S}
    {e : E}
    {o : List O}
    {trace : List (Transition S E O)}
    (hRun : Run step s trace t)
    (hStep : step t e o u) :
    Run step s (trace ++ [⟨t, e, o, u⟩]) u :=
  hRun.append (cons hStep (nil u))

/- Every recorded transition is a step of the system. -/
theorem mem_step
    {s u : S}
    {trace : List (Transition S E O)}
    (hRun : Run step s trace u)
    {transition : Transition S E O}
    (hMem : transition ∈ trace) :
    step transition.pre transition.event
      transition.outputs transition.post := by
  induction hRun with
  | nil => cases hMem
  | cons hStep _ ih =>
      rcases List.mem_cons.mp hMem with rfl | hRest
      · exact hStep
      · exact ih hRest

------------------------------------------------------------
-- Invariants
------------------------------------------------------------

/-
  A predicate preserved by every step that meets the guard
  holds before and after each step of a run all of whose
  steps meet the guard.
-/
theorem invariant_of_steps
    (Inv : S → Prop)
    (Guard : Transition S E O → Prop)
    (hPreserved :
      ∀ transition : Transition S E O,
        step transition.pre transition.event
            transition.outputs transition.post →
          Guard transition →
            Inv transition.pre → Inv transition.post)
    {s u : S}
    {trace : List (Transition S E O)}
    (hRun : Run step s trace u)
    (hGuard : ∀ transition ∈ trace, Guard transition)
    (hStart : Inv s) :
    Inv u ∧
      ∀ transition ∈ trace,
        Inv transition.pre ∧ Inv transition.post := by
  induction hRun with
  | nil => exact ⟨hStart, by simp⟩
  | @cons s s' t e o trace hStep _ ih =>
      have hNext : Inv s' :=
        hPreserved ⟨s, e, o, s'⟩ hStep
          (hGuard _ List.mem_cons_self) hStart
      rcases ih
          (fun transition hMem =>
            hGuard transition
              (List.mem_cons_of_mem _ hMem))
          hNext with
        ⟨hEnd, hAll⟩
      refine ⟨hEnd, ?_⟩
      intro transition hMem
      rcases List.mem_cons.mp hMem with rfl | hRest
      · exact ⟨hStart, hNext⟩
      · exact hAll transition hRest

/- A predicate preserved by every step holds throughout. -/
theorem invariant
    {Inv : S → Prop}
    (hPreserved :
      ∀ s e o s', step s e o s' → Inv s → Inv s')
    {s u : S}
    {trace : List (Transition S E O)}
    (hRun : Run step s trace u)
    (hStart : Inv s) :
    Inv u :=
  (invariant_of_steps Inv (fun _ => True)
    (fun _ hStep _ hInv => hPreserved _ _ _ _ hStep hInv)
    hRun (fun _ _ => trivial) hStart).1

/-
  Accounting along a run.  If in each step the potential and
  what is gained are paid for by the next potential and the
  payment, then so they are over the whole run.
-/
theorem balance
    (potential : S → Nat)
    (gain pay : Transition S E O → Nat)
    (Guard : Transition S E O → Prop)
    (hBalance :
      ∀ transition : Transition S E O,
        step transition.pre transition.event
            transition.outputs transition.post →
          Guard transition →
            potential transition.pre + gain transition ≤
              potential transition.post + pay transition)
    {s u : S}
    {trace : List (Transition S E O)}
    (hRun : Run step s trace u)
    (hGuard : ∀ transition ∈ trace, Guard transition) :
    potential s + (trace.map gain).sum ≤
      potential u + (trace.map pay).sum := by
  induction hRun with
  | nil => exact Nat.le_refl _
  | @cons s s' t e o trace hStep _ ih =>
      have hHead :=
        hBalance ⟨s, e, o, s'⟩ hStep
          (hGuard _ List.mem_cons_self)
      have hTail :=
        ih (fun transition hMem =>
          hGuard transition (List.mem_cons_of_mem _ hMem))
      simp only [List.map_cons, List.sum_cons]
      simp only at hHead
      omega

/-
  First in, first out along a run.  If each step appends what
  enters at the end of the content and takes what leaves from
  its front, then so does the whole run.
-/
theorem fifo
    {α : Type}
    (Content : S → List α → Prop)
    (enter leave : Transition S E O → List α)
    (Guard : Transition S E O → Prop)
    (hStep :
      ∀ (transition : Transition S E O) (content : List α),
        step transition.pre transition.event
            transition.outputs transition.post →
          Guard transition →
            Content transition.pre content →
              ∃ content' : List α,
                Content transition.post content' ∧
                  content ++ enter transition =
                    leave transition ++ content')
    {s u : S}
    {trace : List (Transition S E O)}
    (hRun : Run step s trace u)
    (hGuard : ∀ transition ∈ trace, Guard transition)
    {content : List α}
    (hStart : Content s content) :
    ∃ content' : List α,
      Content u content' ∧
        content ++ trace.flatMap enter =
          trace.flatMap leave ++ content' := by
  induction hRun generalizing content with
  | nil => exact ⟨content, hStart, by simp⟩
  | @cons s s' t e o trace hFirst _ ih =>
      rcases hStep ⟨s, e, o, s'⟩ content hFirst
          (hGuard _ List.mem_cons_self) hStart with
        ⟨middle, hMiddle, hHead⟩
      rcases ih
          (fun transition hMem =>
            hGuard transition
              (List.mem_cons_of_mem _ hMem))
          hMiddle with
        ⟨content', hEnd, hTail⟩
      refine ⟨content', hEnd, ?_⟩
      rw [List.flatMap_cons, List.flatMap_cons,
        ← List.append_assoc, hHead, List.append_assoc, hTail,
        List.append_assoc]

end Run

------------------------------------------------------------
-- Execution
------------------------------------------------------------

/- The run of a list of events, if no step fails. -/
def execute
    {S E O F : Type}
    (next : S → E → Except F (S × List O))
    (s : S) :
    List E → Except F (List (Transition S E O) × S)
| [] => .ok ([], s)
| e :: events =>
    match next s e with
    | .error fault => .error fault
    | .ok (s', o) =>
        match execute next s' events with
        | .error fault => .error fault
        | .ok (trace, t) => .ok (⟨s, e, o, s'⟩ :: trace, t)

theorem run_of_execute
    {S E O F : Type}
    {next : S → E → Except F (S × List O)}
    {s t : S}
    {events : List E}
    {trace : List (Transition S E O)}
    (hExecute : execute next s events = .ok (trace, t)) :
    Run (fun s e o s' => next s e = .ok (s', o)) s trace t ∧
      trace.map Transition.event = events := by
  induction events generalizing s trace with
  | nil =>
      cases hExecute
      exact ⟨.nil _, rfl⟩
  | cons e events ih =>
      unfold execute at hExecute
      cases hNext : next s e with
      | error fault =>
          rw [hNext] at hExecute
          cases hExecute
      | ok result =>
          rcases result with ⟨s', o⟩
          rw [hNext] at hExecute
          simp only at hExecute
          cases hRest : execute next s' events with
          | error fault =>
              rw [hRest] at hExecute
              cases hExecute
          | ok rest =>
              rcases rest with ⟨trace', t'⟩
              rw [hRest] at hExecute
              cases hExecute
              rcases ih hRest with ⟨hRun, hEvents⟩
              refine ⟨.cons hNext hRun, ?_⟩
              rw [List.map_cons, hEvents]

/- What holds of the events holds of those of the run. -/
theorem forall_event
    {S E O : Type}
    {trace : List (Transition S E O)}
    {events : List E}
    (P : E → Prop)
    (hEvents : trace.map Transition.event = events)
    (hAll : ∀ event ∈ events, P event) :
    ∀ transition ∈ trace, P transition.event := by
  intro transition hMem
  apply hAll
  rw [← hEvents]
  exact List.mem_map_of_mem hMem

/- A run of given events that passes a check. -/
theorem exists_run
    {S E O F : Type}
    {next : S → E → Except F (S × List O)}
    {s : S}
    {events : List E}
    (check : List (Transition S E O) × S → Bool)
    (hCheck :
      (execute next s events).toOption.any check = true) :
    ∃ trace t,
      Run (fun s e o s' => next s e = .ok (s', o)) s trace t ∧
        trace.map Transition.event = events ∧
        check (trace, t) = true := by
  cases hExecute : execute next s events with
  | error fault =>
      rw [hExecute] at hCheck
      cases hCheck
  | ok result =>
      rcases result with ⟨trace, t⟩
      rw [hExecute] at hCheck
      rcases run_of_execute hExecute with ⟨hRun, hEvents⟩
      exact ⟨trace, t, hRun, hEvents, hCheck⟩

------------------------------------------------------------
-- Descent
------------------------------------------------------------

/-
  A measure that every step lowers until the process stops
  bounds the number of steps, counted from any point on.
-/
theorem exists_of_descends
    (stops : ℕ → Prop)
    (measure : ℕ → ℕ)
    (start : ℕ)
    (hDescends :
      ∀ k, start ≤ k → ¬ stops k →
        measure (k + 1) < measure k) :
    ∃ n, start ≤ n ∧ n ≤ start + measure start ∧
      stops n := by
  induction hBound : measure start using
      Nat.strong_induction_on generalizing start with
  | _ bound ih =>
      by_cases hStops : stops start
      · exact ⟨start, Nat.le_refl _, by omega, hStops⟩
      · have hLower := hDescends start (Nat.le_refl _) hStops
        rcases
          ih (measure (start + 1)) (by omega) (start + 1)
            (fun k hLe =>
              hDescends k (Nat.le_of_succ_le hLe)) rfl with
          ⟨n, hLow, hHigh, hStop⟩
        exact ⟨n, by omega, by omega, hStop⟩

/-
  A phase that can always be left for the next one gives an
  infinite sequence of states, one in each phase.
-/
theorem exists_sequence
    {S : Type}
    {phase : ℕ → S → Prop}
    {next : ℕ → S → S → Prop}
    (hNext :
      ∀ k s, phase k s → ∃ s', next k s s' ∧ phase (k + 1) s')
    {s : S}
    (hStart : phase 0 s) :
    ∃ states : ℕ → S,
      states 0 = s ∧
        ∀ k, phase k (states k) ∧
          next k (states k) (states (k + 1)) := by
  choose! follow hFollow hPhase using hNext
  let states : ℕ → S := fun k =>
    Nat.rec s (fun k current => follow k current) k
  have hStates : ∀ k, phase k (states k) := by
    intro k
    induction k with
    | zero => exact hStart
    | succ k ih => exact hPhase k (states k) ih
  exact
    ⟨states, rfl, fun k =>
      ⟨hStates k, hFollow k (states k) (hStates k)⟩⟩
