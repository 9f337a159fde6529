import WorkflowDocs.Decimal.Binary64
import Mathlib.Data.Nat.Log

/-!
# Whole numbers beyond double precision

A whole number is too large for double precision if it is no nearer to the greatest of the values
than to the next power of two.

## Main definitions

* `tooLargeWhole`: the least whole number beyond double precision

## Main results

* `roundDiv_eq_succ_iff`: when a quotient is rounded up from an odd number
* `Binary64.ofQuotient_one_eq_infinite_iff`: the whole numbers beyond double precision
-/

namespace WorkflowDocs.Decimal

/-- The least whole number that is beyond double precision, in the middle between the greatest value
and the next power of two. -/
def tooLargeWhole : Nat :=
  Nat.pow 2 1024 - Nat.pow 2 970

/-- A quotient below `q + 1` is rounded up to it from the middle on, if `q` is odd. From below `q`
it is rounded to `q` at most. -/
theorem roundDiv_eq_succ_iff {n d q : Nat} (hd : 0 < d) (hq : q % 2 = 1)
    (hn : n < (q + 1) * (2 * d)) : roundDiv n (2 * d) = q + 1 ↔ (2 * q + 1) * d ≤ n := by
  have hdiv := Nat.div_add_mod n (2 * d)
  have hmod := Nat.mod_lt n (Nat.mul_pos Nat.two_pos hd)
  have hle : n / (2 * d) ≤ q := Nat.lt_succ_iff.1 ((Nat.div_lt_iff_lt_mul (by omega)).2 hn)
  have hmiddle : (2 * q + 1) * d = 2 * d * q + d := by
    rw [Nat.add_mul, Nat.one_mul, Nat.mul_right_comm]
  rw [hmiddle, roundDiv]
  rcases Nat.lt_or_eq_of_le hle with hlt | heq
  · have hbelow : 2 * d * (n / (2 * d)) + 2 * d ≤ 2 * d * q := by
      rw [← Nat.mul_succ]
      exact Nat.mul_le_mul_left _ hlt
    refine iff_of_false ?_ (by omega)
    split
    · omega
    · split
      · omega
      · split <;> omega
  · rw [heq] at hdiv ⊢
    split
    · omega
    · split
      · omega
      · rw [if_neg (by omega)]
        omega

theorem lt_of_log2_lt {m n : Nat} (h : m.log2 < n.log2) : m < n := by
  rw [Nat.log2_eq_log_two, Nat.log2_eq_log_two] at h
  exact Nat.lt_of_not_le fun hle => Nat.not_le.2 h (Nat.log_mono_right hle)

theorem floorLog2_one {n : Nat} (hn : n ≠ 0) : floorLog2 n 1 = (n.log2 : Int) := by
  have hle : 1 * Nat.pow 2 n.log2 ≤ n * Nat.pow 2 0 := by
    rw [Nat.one_mul]
    exact Nat.le_trans (Nat.log2_self_le hn) (Nat.le_mul_of_pos_right n Nat.one_pos)
  have hone : Nat.log2 1 = 0 := by decide
  simp only [floorLog2, hone, Int.ofNat_zero, Int.sub_zero, scaleDown, Int.toNat_neg_natCast,
    Int.toNat_natCast]
  rw [if_pos hle]

namespace Binary64

/-- The value of a whole number is infinite if its exponent is, after rounding. -/
theorem ofQuotient_one_eq_infinite {n : Nat} (hn : n ≠ 0) (negative s : Bool) :
    ofQuotient negative n 1 = .infinite s ↔ s = negative ∧
      greatestExponent < if roundDiv (n * Nat.pow 2 (52 - n.log2)) (Nat.pow 2 (n.log2 - 52)) =
        Nat.pow 2 53 then (n.log2 : Int) - 52 + 1 else (n.log2 : Int) - 52 := by
  have hexponent : max ((n.log2 : Int) - 52) leastExponent = (n.log2 : Int) - 52 :=
    max_eq_left (by rw [leastExponent]; omega)
  have hup : (-((n.log2 : Int) - 52)).toNat = 52 - n.log2 := by omega
  have hdown : ((n.log2 : Int) - 52).toNat = n.log2 - 52 := by omega
  have hrange : ∀ (m : Nat) (e : Int), (if e > greatestExponent then infinite negative
      else finite negative m e) = .infinite s ↔ s = negative ∧ greatestExponent < e := by
    intro m e
    split
    · rename_i h
      exact ⟨fun heq => ⟨(infinite.inj heq).symm, h⟩, fun hs => by rw [hs.1]⟩
    · rename_i h
      exact iff_of_false (by simp) fun hs => h hs.2
  rw [ofQuotient, if_neg hn]
  simp only [floorLog2_one hn, hexponent, scaleDown, hup, hdown, Nat.one_mul]
  split <;> exact hrange _ _

/-- **The whole numbers beyond double precision** are those from `tooLargeWhole` on. Below the last
power of two, even a number that is rounded up is in range. -/
theorem ofQuotient_one_eq_infinite_iff (negative s : Bool) (n : Nat) :
    ofQuotient negative n 1 = .infinite s ↔ s = negative ∧ tooLargeWhole ≤ n := by
  have hlarge : tooLargeWhole = (2 * (Nat.pow 2 53 - 1) + 1) * Nat.pow 2 970 := by decide +kernel
  have hlog2 : tooLargeWhole.log2 = 1023 := by decide +kernel
  rcases eq_or_ne n 0 with rfl | hn
  · have hpos : ¬ tooLargeWhole ≤ 0 := by decide +kernel
    exact iff_of_false (by simp [ofQuotient]) fun h => hpos h.2
  rw [ofQuotient_one_eq_infinite hn, greatestExponent]
  refine and_congr_right fun _ => ?_
  rcases Nat.lt_trichotomy n.log2 1023 with hlog | hlog | hlog
  · have hlt : n < tooLargeWhole := lt_of_log2_lt (Nat.lt_of_lt_of_eq hlog hlog2.symm)
    refine iff_of_false ?_ (Nat.not_le.2 hlt)
    split <;> omega
  · have hnext : ((Nat.pow 2 53 - 1 + 1) * (2 * Nat.pow 2 970)).log2 = 1024 := by decide +kernel
    have hlt : n < (Nat.pow 2 53 - 1 + 1) * (2 * Nat.pow 2 970) := by
      refine lt_of_log2_lt ?_
      rw [hlog, hnext]
      decide
    have hround := roundDiv_eq_succ_iff (by decide +kernel) (by decide +kernel) hlt
    have hquotient : roundDiv (n * Nat.pow 2 (52 - 1023)) (Nat.pow 2 (1023 - 52)) =
        roundDiv n (2 * Nat.pow 2 970) :=
      congrArg₂ roundDiv (Nat.mul_one n) (by decide +kernel)
    have hexact : Nat.pow 2 53 = Nat.pow 2 53 - 1 + 1 := by decide +kernel
    rw [hlarge, ← hround, hlog, hquotient, ← hexact]
    split
    · exact iff_of_true (by decide) ‹_›
    · exact iff_of_false (by decide) ‹_›
  · have hlt : tooLargeWhole < n := lt_of_log2_lt (Nat.lt_of_le_of_lt (Nat.le_of_eq hlog2) hlog)
    refine iff_of_true ?_ (Nat.le_of_lt hlt)
    split <;> omega

end Binary64

end WorkflowDocs.Decimal
