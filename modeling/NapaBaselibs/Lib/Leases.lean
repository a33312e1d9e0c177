import Mathlib.Data.List.Induction
import Mathlib.Logic.Function.Basic

/-
  Keys that are leased to whoever uses them first.

  A key that is free becomes its user's; it stays so until
  the lease expires, whoever uses the key in between.  All
  users find the keys their own exactly if between the uses
  of a key by two users the lease expires.

  Key definitions include:
    * `LeaseEvent`, `Leases.next`, `Leases.after`
    * `Leases.Respects`, `Spaced`

  Key theorems include:
    * `Leases.use_of_after`
    * `Leases.respects_iff_spaced`
-/

------------------------------------------------------------
-- Leases
------------------------------------------------------------

/- What happens to the keys. -/
inductive LeaseEvent (K M : Type) where
  | use (key : K) (user : M)
  | expire (key : K)

/- Who holds each key. -/
abbrev Leases (K M : Type) := K → Option M

namespace Leases

variable {K M : Type}
variable [DecidableEq K]

/- A free key goes to its user, and an expired one is free. -/
def next (leases : Leases K M) : LeaseEvent K M → Leases K M
| .use key user =>
    Function.update leases key
      (some ((leases key).getD user))
| .expire key => Function.update leases key none

/- The leases after a sequence of events. -/
def after
    (leases : Leases K M)
    (events : List (LeaseEvent K M)) : Leases K M :=
  events.foldl next leases

/- Nobody uses the key that another one holds. -/
def Allows (leases : Leases K M) : LeaseEvent K M → Prop
| .use key user => ∀ holder ∈ leases key, user = holder
| .expire _ => True

/- So it is at each of the events. -/
def Respects
    (leases : Leases K M) :
    List (LeaseEvent K M) → Prop
| [] => True
| event :: events =>
    leases.Allows event ∧ (leases.next event).Respects events

/- Between two users of a key its lease expires. -/
def Spaced (events : List (LeaseEvent K M)) : Prop :=
  ∀ (before between rest : List (LeaseEvent K M))
      (key : K) (user user' : M),
    events =
        before ++ .use key user ::
          (between ++ .use key user' :: rest) →
      user ≠ user' → .expire key ∈ between

@[simp] theorem next_use
    (leases : Leases K M)
    (key : K)
    (user : M) :
    leases.next (.use key user) =
      Function.update leases key
        (some ((leases key).getD user)) := rfl

@[simp] theorem next_expire
    (leases : Leases K M)
    (key : K) :
    leases.next (.expire key) =
      Function.update leases key none := rfl

theorem respects_cons
    (leases : Leases K M)
    (event : LeaseEvent K M)
    (events : List (LeaseEvent K M)) :
    leases.Respects (event :: events) ↔
      leases.Allows event ∧
        (leases.next event).Respects events :=
  Iff.rfl

theorem after_append
    (leases : Leases K M)
    (first second : List (LeaseEvent K M)) :
    leases.after (first ++ second) =
      (leases.after first).after second :=
  List.foldl_append

theorem after_snoc
    (leases : Leases K M)
    (events : List (LeaseEvent K M))
    (event : LeaseEvent K M) :
    leases.after (events ++ [event]) =
      (leases.after events).next event := by
  rw [after_append]
  rfl

theorem respects_append
    (leases : Leases K M)
    (first second : List (LeaseEvent K M)) :
    leases.Respects (first ++ second) ↔
      leases.Respects first ∧
        (leases.after first).Respects second := by
  induction first generalizing leases with
  | nil => exact ⟨fun h => ⟨trivial, h⟩, And.right⟩
  | cons event first ih =>
      rw [List.cons_append, respects_cons, respects_cons, ih,
        and_assoc]
      rfl

------------------------------------------------------------
-- Who Holds A Key
------------------------------------------------------------

/- A key in use stays with its holder. -/
theorem next_of_holder
    {leases : Leases K M}
    {event : LeaseEvent K M}
    {key : K}
    {holder : M}
    (hHolder : leases key = some holder)
    (hStays : event ≠ .expire key) :
    leases.next event key = some holder := by
  cases event with
  | use other user =>
      rw [next_use]
      by_cases hSame : key = other
      · rw [← hSame, Function.update_self, hHolder]
        rfl
      · rw [Function.update_of_ne hSame, hHolder]
  | expire other =>
      rw [next_expire, Function.update_of_ne, hHolder]
      intro hSame
      exact hStays (hSame ▸ rfl)

/- So it does until it expires. -/
theorem after_of_holder
    {leases : Leases K M}
    {events : List (LeaseEvent K M)}
    {key : K}
    {holder : M}
    (hHolder : leases key = some holder)
    (hStays : .expire key ∉ events) :
    leases.after events key = some holder := by
  induction events generalizing leases with
  | nil => exact hHolder
  | cons event events ih =>
      rw [List.mem_cons, not_or] at hStays
      exact
        ih (next_of_holder hHolder (Ne.symm hStays.1))
          hStays.2

/- A key is its user's after a use that is allowed. -/
theorem next_use_self
    {leases : Leases K M}
    {key : K}
    {user : M}
    (hAllows : leases.Allows (.use key user)) :
    leases.next (.use key user) key = some user := by
  rw [next_use, Function.update_self]
  cases hHolder : leases key with
  | none => rfl
  | some holder =>
      rw [hAllows holder hHolder]
      rfl

/-
  The holder of a key is one who used it, and the lease has
  not expired since.
-/
theorem use_of_after
    {events : List (LeaseEvent K M)}
    {key : K}
    {holder : M}
    (hHolder :
      Leases.after (fun _ => none) events key =
        some holder) :
    ∃ before since : List (LeaseEvent K M),
      events = before ++ .use key holder :: since ∧
        .expire key ∉ since := by
  induction events using List.reverseRecOn with
  | nil => cases hHolder
  | append_singleton events event ih =>
      rw [after_snoc] at hHolder
      have hEarlier
          (hSame :
            Leases.after (fun _ => none) events key =
              some holder)
          (hOther : event ≠ .expire key) :
          ∃ before since : List (LeaseEvent K M),
            events ++ [event] =
                before ++ .use key holder :: since ∧
              .expire key ∉ since := by
        rcases ih hSame with ⟨before, since, rfl, hSince⟩
        refine ⟨before, since ++ [event], by simp, ?_⟩
        rw [List.mem_append, List.mem_singleton, not_or]
        exact ⟨hSince, Ne.symm hOther⟩
      cases event with
      | use other user =>
          rw [next_use] at hHolder
          by_cases hSame : key = other
          · subst hSame
            rw [Function.update_self, Option.some.injEq]
              at hHolder
            cases hBefore :
                Leases.after (fun _ => none) events key with
            | none =>
                rw [hBefore] at hHolder
                subst hHolder
                exact
                  ⟨events, [], rfl, List.not_mem_nil⟩
            | some earlier =>
                rw [hBefore] at hHolder
                subst hHolder
                exact hEarlier hBefore (by simp)
          · rw [Function.update_of_ne hSame] at hHolder
            exact hEarlier hHolder (by simp)
      | expire other =>
          rw [next_expire] at hHolder
          by_cases hSame : key = other
          · rw [hSame, Function.update_self] at hHolder
            cases hHolder
          · rw [Function.update_of_ne hSame] at hHolder
            refine hEarlier hHolder ?_
            intro hEq
            cases hEq
            exact hSame rfl

------------------------------------------------------------
-- Uses By The Holder
------------------------------------------------------------

/-
  From free keys on, everyone finds the keys free or their
  own exactly if the uses are spaced.
-/
theorem respects_iff_spaced
    (events : List (LeaseEvent K M)) :
    Leases.Respects (fun _ => none) events ↔
      Spaced events := by
  constructor
  · rintro hRespects before between rest key user user' rfl
      hOther
    by_contra hStays
    rw [respects_append] at hRespects
    rcases hRespects with ⟨_, hAllows, hRest⟩
    rw [respects_append] at hRest
    have hHolder := next_use_self hAllows
    exact
      hOther
        (hRest.2.1 user (after_of_holder hHolder hStays)).symm
  · intro hSpaced
    induction events using List.reverseRecOn with
    | nil => trivial
    | append_singleton events event ih =>
        rw [respects_append]
        refine ⟨ih ?_, ?_, trivial⟩
        · rintro before between rest key user user' rfl
          exact
            hSpaced before between (rest ++ [event]) key user
              user' (by simp)
        · cases event with
          | expire key => trivial
          | use key user =>
              intro holder hHolder
              rcases use_of_after hHolder with
                ⟨before, since, rfl, hSince⟩
              by_contra hOther
              exact
                hSince
                  (hSpaced before since [] key holder user
                    (by simp) (Ne.symm hOther))

end Leases
