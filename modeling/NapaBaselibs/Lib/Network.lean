import NapaBaselibs.Lib.Runs

/-
  Parties that exchange messages over a network.

  A party is a labelled transition system of its own; a step
  of the network is a step of one of them.  What a step emits
  is added to what that party has sent.  Nothing is ever
  taken away: a message that was sent may arrive at any later
  time, any number of times or never, so loss, duplication
  and reordering are all there.

  Key definitions include:
    * `Network`
    * `NetSystem`, `NetSystem.Step`

  Key theorems include:
    * `NetSystem.mem_sent`
-/

------------------------------------------------------------
-- Networks
------------------------------------------------------------

variable {P S E O M : Type}

/- The states of the parties and all that each has sent. -/
structure Network (P S M : Type) where
  node : P → S
  sent : P → List M

/-
  What a network is made of: the steps of each party, what
  the outputs of a step put on the network, and which events
  and outputs are possible after what has been sent.
-/
structure NetSystem (P S E O M : Type) where
  step : P → S → E → List O → S → Prop
  emits : List O → List M
  possible : P → (P → List M) → E → List O → Prop

namespace NetSystem

/- One party takes a step, all others stay as they are. -/
structure Step
    (system : NetSystem P S E O M)
    (s : Network P S M)
    (e : P × E)
    (outputs : List O)
    (s' : Network P S M) : Prop where
  step :
    system.step e.1 (s.node e.1) e.2 outputs (s'.node e.1)
  possible : system.possible e.1 s.sent e.2 outputs
  sent :
    s'.sent e.1 = s.sent e.1 ++ system.emits outputs
  node_eq : ∀ q, q ≠ e.1 → s'.node q = s.node q
  sent_eq : ∀ q, q ≠ e.1 → s'.sent q = s.sent q

variable {system : NetSystem P S E O M}

/- What is sent after a step was sent before or by it. -/
theorem Step.mem_sent
    {s s' : Network P S M}
    {e : P × E}
    {outputs : List O}
    (hStep : system.Step s e outputs s')
    {q : P}
    {m : M}
    (hSent : m ∈ s'.sent q) :
    m ∈ s.sent q ∨
      (q = e.1 ∧ m ∈ system.emits outputs) := by
  by_cases hEq : q = e.1
  · subst hEq
    rw [hStep.sent] at hSent
    rcases List.mem_append.mp hSent with hOld | hNew
    · exact Or.inl hOld
    · exact Or.inr ⟨rfl, hNew⟩
  · rw [hStep.sent_eq q hEq] at hSent
    exact Or.inl hSent

/-
  Every message on the network was there at the start or was
  emitted in a step of its sender.
-/
theorem mem_sent
    {s u : Network P S M}
    {trace : List (Transition (Network P S M) (P × E) O)}
    (hRun : Run system.Step s trace u)
    {q : P}
    {m : M}
    (hSent : m ∈ u.sent q) :
    m ∈ s.sent q ∨
      ∃ tr ∈ trace,
        tr.event.1 = q ∧ m ∈ system.emits tr.outputs := by
  induction hRun with
  | nil => exact Or.inl hSent
  | cons hStep _ ih =>
      rcases ih hSent with hEarlier | ⟨tr, hMem, hTr⟩
      · rcases hStep.mem_sent hEarlier with
          hOld | ⟨hSender, hNew⟩
        · exact Or.inl hOld
        · exact
            Or.inr
              ⟨_, List.mem_cons_self, hSender.symm, hNew⟩
      · exact
          Or.inr ⟨tr, List.mem_cons_of_mem _ hMem, hTr⟩

end NetSystem
