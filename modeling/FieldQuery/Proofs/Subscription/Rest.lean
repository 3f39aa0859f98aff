/-
**Parties of a relay come to rest.**

A carrier tells a handle what it has to tell, and a listener of the caller registers others and asks
for the end; so all that parties do comes to an end.  A notice to the outer handle is good for one
to the inner one, which is good for none, however much the listeners do about it.  What the carrier
left to be done on closing is good for more, but once.  What else a party does is done with its
turn.

Main definitions:

* `Relay.load`, `Relay.charge` — how many notices something is still good for;
* `Relay.rank` — how far parties are from their end.

Main results:

* `Relay.Wired.lighter` — a move brings the end nearer;
* `Relay.Tied.exists_rest` — **parties of a relay come to rest**.
-/

import FieldQuery.Proofs.Subscription.Relay
import Mathlib

set_option autoImplicit false

namespace FieldQuery

open Parties

variable {ε : Type}

namespace Relay

/-! ### What is left to do -/

/-- How many notices a command is still good for: one to the outer handle is passed on. -/
def load (r : Relay ε) : Command ε → Nat
  | .notify j _ => if j = r.outer then 2 else 1
  | _ => 0

/-- How many notices commands are still good for. -/
def loads (r : Relay ε) (cs : List (Command ε)) : Nat := (cs.map r.load).sum

/-- How many notices what closes a handle is good for. -/
def charge (r : Relay ε) (h : Handle ε) : Nat := r.loads (h.closer.getD [])

/-- How many closers are left. -/
def closersLeft (o i : Handle ε) : Nat :=
  o.closer.isSome.toNat + i.closer.isSome.toNat

variable {ι : Type} {r : Relay ε} {o i o' i' : Handle ε} {w : Parties ι ε} {c : Command ε}
  {more : List (Command ε)}

@[simp] theorem loads_append (xs ys : List (Command ε)) :
    r.loads (xs ++ ys) = r.loads xs + r.loads ys := by
  simp [loads]

theorem loads_of_uses {cs : List (Command ε)} (h : ∀ c ∈ cs, c.IsUse r.inner) :
    r.loads cs = 0 := by
  refine List.sum_eq_zero fun n hn => ?_
  obtain ⟨c, hc, rfl⟩ := List.mem_map.mp hn
  cases h c hc <;> rfl

/-! ### Nearer to the end -/

/-- A move is good for fewer notices than before, or for as many with fewer closers left, or it
brings nothing about. -/
theorem Wired.lighter (hw : Wired r o i)
    (hm : Move r o i c o' i' more) :
    r.loads more + r.charge o' < r.load c + r.charge o ∨
      r.loads more + r.charge o' = r.load c + r.charge o ∧
        (closersLeft o' i' < closersLeft o i ∨
          closersLeft o' i' = closersLeft o i ∧ more = []) := by
  cases hm with
  | write entry => simp [loads, load]
  | listen kind react uses => simp [loads, load, closersLeft, Handle.listen]
  | closeInner =>
    rcases hw.closeInner with ⟨hi, hc⟩ | ⟨hi, hc⟩
    · simp [hc, loads, load]
    · simp [hi, Handle.close, loads, load, closersLeft]
  | closeOuter =>
    cases ho : o.closer <;> simp [ho, Handle.close, charge, loads, load, closersLeft]
  | tellOuter n =>
    left
    have hcloser : r.charge (o.notify n).1 ≤ r.charge o := by
      rcases o.closer_notify n with hn | ⟨-, hn⟩ <;> simp [charge, hn, loads]
    have hmore : r.loads (o.notify n).2 ≤ 1 := by
      by_cases hn : o.Minds n
      · simp [hw.tellOuter hn, loads, load, r.apart.symm]
      · simp [Handle.notify_of_not_minds hn, loads]
    have hload : r.load (.notify r.outer n : Command ε) = 2 := if_pos rfl
    omega
  | tellInner n =>
    left
    have hload : r.load (.notify r.inner n : Command ε) = 1 := if_neg r.apart.symm
    rw [loads_of_uses (hw.uses_tellInner n), hload]
    omega

variable [Fintype ι]

/-- How far parties are from their end. -/
def rank (r : Relay ε) (w : Parties ι ε) : Nat × Nat × Nat :=
  (∑ q, r.loads (w.waiting q) + ((w.shared.held? r.outer).map r.charge).getD 0,
    armed r.outer w + armed r.inner w, ∑ q, (w.waiting q).length)

theorem Joined.rank_eq (h : Joined r o i w) :
    r.rank w = (∑ q, r.loads (w.waiting q) + r.charge o, closersLeft o i,
      ∑ q, (w.waiting q).length) := by
  rw [rank, armed_of_held h.held_outer, armed_of_held h.held_inner, h.held_outer]
  rfl

variable [DecidableEq ι]

theorem sum_update (f : List (Command ε) → Nat) (g : ι → List (Command ε)) (p : ι)
    (cs : List (Command ε)) :
    ∑ q, f (Function.update g p cs q) = f cs + ∑ q ∈ Finset.univ.erase p, f (g q) := by
  rw [← Finset.add_sum_erase _ _ (Finset.mem_univ p), Function.update_self]
  congr 1
  refine Finset.sum_congr rfl fun q hq => ?_
  rw [Function.update_of_ne (Finset.ne_of_mem_erase hq)]

/-- Every turn of somebody who has something to do brings the end nearer. -/
theorem Tied.rank_turn (w : Parties ι ε) (p : ι) (h : Tied r w)
    (hp : w.waiting p ≠ []) :
    Prod.Lex (· < ·) (Prod.Lex (· < ·) (· < ·)) (r.rank (w.turn p))
      (r.rank w) := by
  obtain ⟨o, i, hj⟩ := h
  obtain ⟨c, rest, hc⟩ := List.exists_cons_of_ne_nil hp
  obtain ⟨o', i', more, hm, hw', hj'⟩ := hj.turn hc
  have hlighter := hj.wired.lighter hm
  -- What concerns the other parties stays as it is.
  have hloads := Finset.add_sum_erase Finset.univ (fun q => r.loads (w.waiting q))
    (Finset.mem_univ p)
  have hlengths := Finset.add_sum_erase Finset.univ (fun q => (w.waiting q).length)
    (Finset.mem_univ p)
  have hcons : r.loads (c :: rest) = r.load c + r.loads rest := List.sum_cons
  simp only [hc, hcons, List.length_cons] at hloads hlengths
  rw [hj.rank_eq, hj'.rank_eq, hw', sum_update, sum_update, ← hloads, ← hlengths, loads_append,
    Prod.lex_def, Prod.lex_def]
  simp only [List.length_append]
  rcases hlighter with hl | ⟨hl, hcl | ⟨hcl, rfl⟩⟩
  · left
    omega
  · right
    exact ⟨by omega, .inl hcl⟩
  · right
    exact ⟨by omega, .inr ⟨hcl, by simp only [List.length_nil]; omega⟩⟩

/-- **Parties of a relay come to rest** if everybody has a turn again and again. -/
theorem Tied.exists_rest (h : Tied r w) {order : Nat → ι} (fair : Fair order) :
    ∃ n, (w.run (firstTurns order n)).AtRest :=
  Parties.exists_rest (wellFounded_lt.prod_lex (wellFounded_lt.prod_lex wellFounded_lt))
    r.rank Tied.turn Tied.rank_turn h fair

end Relay

end FieldQuery
