import Mathlib.Logic.Function.Basic
import Mathlib.Data.List.Basic
import Mathlib.Data.Nat.ModEq

/-!
# Ring windows

A ring buffer of `cap` slots holds, in order, the `count` slots from `head`,
indices taken modulo `cap`. Each lemma describes one pointer movement as an
operation on that list: removing the head, appending behind the window,
removing the last slot, and filling a window slot by slot.
-/

namespace WalnutGateway

variable {α : Type}

/-- The `count` slots from `head` on, wrapping at `cap`. -/
def ringWindow (slots : Nat → α) (cap head count : Nat) : List α :=
  (List.range count).map fun i => slots ((head + i) % cap)

@[simp] theorem ringWindow_zero (slots : Nat → α) (cap head : Nat) :
    ringWindow slots cap head 0 = [] := rfl

@[simp] theorem length_ringWindow (slots : Nat → α) (cap head count : Nat) :
    (ringWindow slots cap head count).length = count := by
  simp only [ringWindow, List.length_map, List.length_range]

/-- The first slot of a nonempty window is the head slot. -/
theorem ringWindow_succ (slots : Nat → α) {cap head : Nat} (hh : head < cap) (count : Nat) :
    ringWindow slots cap head (count + 1) =
      slots head :: ringWindow slots cap ((head + 1) % cap) count := by
  simp only [ringWindow, List.range_succ_eq_map, List.map_cons, List.map_map, Nat.add_zero,
    Nat.mod_eq_of_lt hh]
  congr 1
  apply List.map_congr_left
  intro i _
  simp only [Function.comp_apply, Nat.mod_add_mod]
  congr 2
  omega

/-- The last slot of a nonempty window lies `count` behind the head. -/
theorem ringWindow_snoc (slots : Nat → α) (cap head count : Nat) :
    ringWindow slots cap head (count + 1) =
      ringWindow slots cap head count ++ [slots ((head + count) % cap)] := by
  simp only [ringWindow, List.range_succ, List.map_append, List.map_singleton]

/-- Different offsets below the capacity are different slots. -/
theorem ring_slot_ne {cap head i j : Nat} (hi : i < cap) (hj : j < cap) (hne : i ≠ j) :
    (head + i) % cap ≠ (head + j) % cap := by
  intro he
  apply hne
  have hmod : i ≡ j [MOD cap] := Nat.ModEq.add_left_cancel' head he
  rwa [Nat.ModEq, Nat.mod_eq_of_lt hi, Nat.mod_eq_of_lt hj] at hmod

/-- Writing a slot outside the window leaves the window as it is. -/
theorem ringWindow_update_of_le {slots : Nat → α} {cap head count j : Nat} (x : α)
    (hj : count ≤ j) (hcap : j < cap) :
    ringWindow (Function.update slots ((head + j) % cap) x) cap head count =
      ringWindow slots cap head count := by
  apply List.map_congr_left
  intro i hi
  have hi' : i < count := List.mem_range.mp hi
  have hne : i ≠ j := by omega
  exact Function.update_of_ne (ring_slot_ne (hi'.trans_le (by omega)) hcap hne) x slots

/-- Writing the slot behind a window that has room appends to it. -/
theorem ringWindow_push {slots : Nat → α} {cap head count : Nat} (x : α) (hc : count < cap) :
    ringWindow (Function.update slots ((head + count) % cap) x) cap head (count + 1) =
      ringWindow slots cap head count ++ [x] := by
  rw [ringWindow_snoc, ringWindow_update_of_le x le_rfl hc, Function.update_self]

/-- Stepping back from the position behind a window reaches its last slot. -/
theorem ring_pred {cap head count : Nat} (hcap : 0 < cap) (hc : 0 < count) :
    ((head + count) % cap + cap - 1) % cap = (head + (count - 1)) % cap := by
  have h : (head + count) % cap + cap - 1 = (head + count) % cap + (cap - 1) := by omega
  rw [h, Nat.mod_add_mod, show head + count + (cap - 1) = head + (count - 1) + cap by omega,
    Nat.add_mod_right]

/-- Write `xs` to consecutive slots from `head` on. -/
def ringFill (cap : Nat) : (Nat → α) → Nat → List α → Nat → α
  | slots, _, [] => slots
  | slots, head, x :: xs => ringFill cap (Function.update slots head x) ((head + 1) % cap) xs

/-- Filling from `head` does not touch the slots it does not reach. -/
theorem ringFill_of_not_mem {cap : Nat} (xs : List α) (slots : Nat → α) {head k : Nat}
    (hh : head < cap) (hk : ∀ i < xs.length, (head + i) % cap ≠ k) :
    ringFill cap slots head xs k = slots k := by
  induction xs generalizing slots head with
  | nil => rfl
  | cons x xs ih =>
    have h0 : head ≠ k := by
      have := hk 0 (by simp)
      rwa [Nat.add_zero, Nat.mod_eq_of_lt hh] at this
    have hh' : (head + 1) % cap < cap := Nat.mod_lt _ (by omega)
    rw [ringFill, ih _ hh', Function.update_of_ne (Ne.symm h0)]
    intro i hi
    rw [Nat.mod_add_mod, show head + 1 + i = head + (i + 1) by omega]
    exact hk (i + 1) (by simpa using hi)

/-- After a fill that does not lap itself the window is what was written. -/
theorem ringWindow_ringFill {cap : Nat} (xs : List α) (slots : Nat → α) {head : Nat}
    (hh : head < cap) (hlen : xs.length ≤ cap) :
    ringWindow (ringFill cap slots head xs) cap head xs.length = xs := by
  induction xs generalizing slots head with
  | nil => rfl
  | cons x xs ih =>
    have hlen' : xs.length < cap := hlen
    have hh' : (head + 1) % cap < cap := Nat.mod_lt _ (by omega)
    rw [List.length_cons, ringWindow_succ _ hh, ringFill, ih _ hh' hlen'.le]
    congr 1
    rw [ringFill_of_not_mem xs _ hh', Function.update_self]
    intro i hi he
    rw [Nat.mod_add_mod, show head + 1 + i = head + (i + 1) by omega] at he
    have h0 : (head + (i + 1)) % cap = (head + 0) % cap := by
      rw [he, Nat.add_zero, Nat.mod_eq_of_lt hh]
    have hne : i + 1 ≠ 0 := Nat.succ_ne_zero i
    exact ring_slot_ne (lt_of_le_of_lt hi hlen') (by omega) hne h0

end WalnutGateway
