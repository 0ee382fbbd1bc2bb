/-
# `Proofs.Text.Run` — how far a run goes

A run is as long as the characters at the front that are of the class:

    what it takes and what it leaves                      (`take_run`, `drop_run`)
    it ends where a character of another class stands     (`any_run`, `run_take_append`)
    so nothing of the class at the front is longer        (`length_le_run`)
-/
import Mathlib.Data.List.TakeWhile
import PlainMath.Text.Run

namespace PlainMath.Text

variable {p : Char → Bool}

theorem run_cons (p : Char → Bool) (c : Char) (cs : List Char) :
    run p (c :: cs) = if p c then run p cs + 1 else 0 := by
  cases hc : p c <;> simp [run, hc]

theorem run_le_length (p : Char → Bool) (cs : List Char) : run p cs ≤ cs.length :=
  (List.takeWhile_sublist p).length_le

theorem take_run (p : Char → Bool) : ∀ cs : List Char, cs.take (run p cs) = cs.takeWhile p
  | [] => rfl
  | c :: cs => by
      have ih := take_run p cs
      simp only [run] at ih ⊢
      cases hc : p c <;> simp [hc, ih]

theorem drop_run (p : Char → Bool) : ∀ cs : List Char, cs.drop (run p cs) = cs.dropWhile p
  | [] => rfl
  | c :: cs => by
      have ih := drop_run p cs
      simp only [run] at ih ⊢
      cases hc : p c <;> simp [hc, ih]

/-! ## Where a run ends -/

theorem any_of_lt_run {ds : List Char} {k : Nat} (h : k < run p ds) : ds[k]?.any p = true := by
  induction ds generalizing k with
  | nil => exact absurd h (Nat.not_lt_zero k)
  | cons c ds ih =>
      cases hc : p c with
      | false => simp [run, hc] at h
      | true =>
          cases k with
          | zero => simp [hc]
          | succ k => exact ih (by simpa [run, hc] using h)

theorem any_run (p : Char → Bool) (ds : List Char) : ds[run p ds]?.any p = false := by
  induction ds with
  | nil => rfl
  | cons c ds ih =>
      cases hc : p c with
      | false => simp [run, hc]
      | true => simpa [run, hc] using ih

theorem run_drop_eq_zero {cs : List Char} {i : Nat} :
    run p (cs.drop i) = 0 ↔ cs[i]?.any p = false := by
  constructor
  · intro h
    simpa [h] using any_run p (cs.drop i)
  · intro h
    by_contra hpos
    have hfirst := any_of_lt_run (Nat.pos_of_ne_zero hpos)
    rw [List.getElem?_drop, Nat.add_zero, h] at hfirst
    cases hfirst

/-- Characters of the class at the front belong to the run. -/
theorem length_le_run {v cs : List Char} (hv : ∀ c ∈ v, p c = true) (hfront : v <+: cs) :
    v.length ≤ run p cs := by
  obtain ⟨rest, rfl⟩ := hfront
  simp [run, List.takeWhile_append_of_pos hv]

/-! ## More characters behind -/

/-- A run does not change if the characters are cut off somewhere behind it and a character of
another class follows there. -/
theorem run_take_append {x : List Char} (hx : ∀ c ∈ x.head?, p c = false) :
    ∀ (cs : List Char) (k : Nat), run p cs ≤ k → run p (cs.take k ++ x) = run p cs
  | [], k, _ => by
      cases x with
      | nil => simp [run]
      | cons c x => simp [run, hx c rfl]
  | c :: cs, 0, hk => by
      have hzero : run p (c :: cs) = 0 := Nat.le_zero.mp hk
      rw [hzero]
      exact run_take_append hx [] 0 (Nat.zero_le 0)
  | c :: cs, k + 1, hk => by
      rw [List.take_succ_cons, List.cons_append, run_cons, run_cons]
      cases hc : p c with
      | false => rfl
      | true =>
          rw [run_cons, hc] at hk
          simp only [if_true] at hk ⊢
          rw [run_take_append hx cs k (Nat.le_of_succ_le_succ hk)]

theorem run_append {x : List Char} (hx : ∀ c ∈ x.head?, p c = false) (cs : List Char) :
    run p (cs ++ x) = run p cs := by
  have h := run_take_append hx cs cs.length (run_le_length p cs)
  rwa [List.take_length] at h

/-- A run of characters of one class ends where another character follows. -/
theorem takeWhile_append_of_stop {u x : List Char} (hu : ∀ c ∈ u, p c = true)
    (hx : ∀ c ∈ x.head?, p c = false) : (u ++ x).takeWhile p = u := by
  rw [List.takeWhile_append_of_pos hu]
  cases x with
  | nil => simp
  | cons c x => simp [hx c rfl]

theorem dropWhile_append_of_stop {u x : List Char} (hu : ∀ c ∈ u, p c = true)
    (hx : ∀ c ∈ x.head?, p c = false) : (u ++ x).dropWhile p = x := by
  rw [List.dropWhile_append_of_pos hu]
  cases x with
  | nil => rfl
  | cons c x => simp [hx c rfl]

theorem run_append_of_stop {u x : List Char} (hu : ∀ c ∈ u, p c = true)
    (hx : ∀ c ∈ x.head?, p c = false) : run p (u ++ x) = u.length :=
  congrArg List.length (takeWhile_append_of_stop hu hx)

end PlainMath.Text
