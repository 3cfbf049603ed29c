/-!
# Bisection

The number of leading indexes below a limit at which a test fails, found by halving.  On a test
that fails up to some index and holds from there on, this is that index; on any other test the
halving still determines the answer, so the function is total.

* `bisect` — the halving search;
* `bisect_eq` — what it finds for a monotone test.
-/

namespace LiquidMarkdown

/-- Halve `lo .. hi` until it is empty: keep the lower half where the test holds at the middle,
else the upper half. -/
def bisect (beyond : Nat → Bool) (lo hi : Nat) : Nat :=
  if lo < hi then
    if beyond ((lo + hi) / 2) then bisect beyond lo ((lo + hi) / 2)
    else bisect beyond ((lo + hi) / 2 + 1) hi
  else lo
termination_by hi - lo
decreasing_by all_goals omega

/-- The place where a monotone test turns true. -/
theorem bisect_eq {beyond : Nat → Bool} {lo hi k : Nat} (hlo : lo ≤ k) (hhi : k ≤ hi)
    (before : ∀ i, lo ≤ i → i < k → beyond i = false)
    (after : ∀ i, k ≤ i → i < hi → beyond i = true) : bisect beyond lo hi = k := by
  fun_induction bisect beyond lo hi with
  | case1 lo hi h hb ih =>
      have : k ≤ (lo + hi) / 2 := Nat.not_lt.1 fun hc => by
        simp [before ((lo + hi) / 2) (by omega) hc] at hb
      exact ih hlo this before fun i h₁ h₂ => after i h₁ (by omega)
  | case2 lo hi h hb ih =>
      have : (lo + hi) / 2 < k := Nat.not_le.1 fun hc =>
        hb (after ((lo + hi) / 2) hc (by omega))
      exact ih (by omega) hhi (fun i h₁ h₂ => before i (by omega) h₂) after
  | case3 lo hi h => omega

end LiquidMarkdown
