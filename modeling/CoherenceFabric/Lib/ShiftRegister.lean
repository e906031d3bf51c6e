import Mathlib.Logic.Function.Iterate

/-!
Shift registers with linear feedback.

A step shifts the register down by one bit and adds the feedback polynomial if the bit that falls
out is set. Steps are linear, so the low bits of a register and the others can be followed apart.
A message is fed bit by bit; the register is the mirror image of the remainder that a division of
the message leaves.
-/

namespace ShiftRegister

variable {w : Nat} (p : BitVec w) {x y mask : BitVec w} {n : Nat}

def step (x : BitVec w) : BitVec w := if x.getLsbD 0 then (x >>> 1) ^^^ p else x >>> 1

lemma step_xor : step p (x ^^^ y) = step p x ^^^ step p y := by
  unfold step
  rw [BitVec.getLsbD_xor, BitVec.ushiftRight_xor_distrib]
  cases x.getLsbD 0 <;> cases y.getLsbD 0
  · rfl
  · simp [BitVec.xor_assoc]
  · simp [BitVec.xor_assoc, BitVec.xor_comm p]
  · -- the polynomial is added twice
    have htwice : p ^^^ (y >>> 1 ^^^ p) = y >>> 1 := by
      rw [BitVec.xor_comm, BitVec.xor_assoc, BitVec.xor_self, BitVec.xor_zero]
    simp [BitVec.xor_assoc, htwice]

lemma iterate_xor : (step p)^[n] (x ^^^ y) = (step p)^[n] x ^^^ (step p)^[n] y := by
  induction n generalizing x y with
  | zero => rfl
  | succ n ih => rw [Function.iterate_succ_apply, step_xor, ih]; rfl

lemma iterate_of_clear (h : ∀ i < n, x.getLsbD i = false) : (step p)^[n] x = x >>> n := by
  induction n with
  | zero => simp
  | succ n ih =>
    have hclear : (x >>> n).getLsbD 0 = false := by simpa using h n n.lt_succ_self
    rw [Function.iterate_succ_apply', ih fun i hi => h i (Nat.lt_succ_of_lt hi), step, hclear,
      BitVec.shiftRight_add]
    rfl

lemma iterate_split (hmask : ∀ i, mask.getLsbD i = decide (i < n)) :
    (step p)^[n] x = (step p)^[n] (x &&& mask) ^^^ (x >>> n) := by
  have hclear : ∀ i < n, (x &&& ~~~mask).getLsbD i = false := by
    intro i hi
    simp only [BitVec.getLsbD_and, BitVec.getLsbD_not, hmask, hi, decide_true, Bool.not_true,
      Bool.and_false]
  have hhigh : (x &&& ~~~mask) >>> n = x >>> n := by
    refine BitVec.eq_of_getLsbD_eq fun i _ => ?_
    simp only [BitVec.getLsbD_ushiftRight, BitVec.getLsbD_and, BitVec.getLsbD_not, hmask]
    by_cases hw : n + i < w
    · simp [hw]
    · simp only [BitVec.getLsbD_of_ge x _ (Nat.le_of_not_lt hw), Bool.false_and]
  calc (step p)^[n] x = (step p)^[n] ((x &&& mask) ^^^ (x &&& ~~~mask)) := by
        congr 1
        ext i hi
        simp only [BitVec.getElem_xor, BitVec.getElem_and, BitVec.getElem_not]
        cases x[i] <;> cases mask[i] <;> rfl
    _ = (step p)^[n] (x &&& mask) ^^^ (x >>> n) := by
        rw [iterate_xor, iterate_of_clear p hclear, hhigh]

/-! ### Messages -/

/-- One bit of a message is added to the bit that falls out. -/
def feed (x : BitVec w) (b : Bool) : BitVec w := step p (x ^^^ (BitVec.ofBool b).setWidth w)

/-- The remainder of a division, one bit of the message later: its high end comes first. -/
def divide (generator r : BitVec w) (b : Bool) : BitVec w :=
  if r.msb ^^ b then (r <<< 1) ^^^ generator else r <<< 1

lemma divide_reverse (hw : 0 < w) (b : Bool) :
    (divide p x b).reverse = feed p.reverse x.reverse b := by
  have hbit : (x.reverse ^^^ (BitVec.ofBool b).setWidth w).getLsbD 0 = (x.msb ^^ b) := by
    rw [BitVec.getLsbD_xor, BitVec.getLsbD_reverse, BitVec.msb_eq_getMsbD_zero]
    simp [hw]
  have hshift : (x.reverse ^^^ (BitVec.ofBool b).setWidth w) >>> 1 = (x <<< 1).reverse := by
    refine BitVec.eq_of_getLsbD_eq fun i _ => ?_
    rw [BitVec.getLsbD_reverse, BitVec.getMsbD_shiftLeft, BitVec.getLsbD_ushiftRight,
      BitVec.getLsbD_xor, BitVec.getLsbD_reverse]
    simp [Nat.add_comm]
  unfold divide feed step
  rw [hbit, hshift]
  split
  · refine BitVec.eq_of_getLsbD_eq fun i _ => ?_
    simp only [BitVec.getLsbD_reverse, BitVec.getLsbD_xor, BitVec.getMsbD_xor]
  · rfl

lemma foldl_divide_reverse (hw : 0 < w) (bits : List Bool) :
    (bits.foldl (divide p) x).reverse = bits.foldl (feed p.reverse) x.reverse := by
  induction bits generalizing x with
  | nil => rfl
  | cons b bits ih => rw [List.foldl_cons, ih, divide_reverse p hw]; rfl

/-- The low bits of a value may be fed one by one, or added to the register at once. -/
lemma foldl_feed {m : Nat} (value : BitVec m) (hn : n ≤ w) :
    ((List.range n).map value.getLsbD).foldl (feed p) x =
      (step p)^[n] (x ^^^ (value.setWidth n).setWidth w) := by
  induction n with
  | zero =>
    have hnone : (value.setWidth 0).setWidth w = 0#w := by
      refine BitVec.eq_of_getLsbD_eq fun i _ => ?_
      simp
    rw [hnone, BitVec.xor_zero]
    rfl
  | succ n ih =>
    -- a bit that is added `n` steps earlier is added `n` places further up
    have hbit : (step p)^[n] ((BitVec.ofBool (value.getLsbD n)).setWidth w <<< n) =
        (BitVec.ofBool (value.getLsbD n)).setWidth w := by
      rw [iterate_of_clear p fun i hi => by simp [hi]]
      refine BitVec.eq_of_getLsbD_eq fun i hi => ?_
      simp only [BitVec.getLsbD_ushiftRight, BitVec.getLsbD_shiftLeft, BitVec.getLsbD_setWidth,
        BitVec.getLsbD_ofBool]
      by_cases hfirst : i = 0
      · simp [hfirst, Nat.lt_of_succ_le hn]
      · simp [hfirst]
    have hlow : (value.setWidth (n + 1)).setWidth w = (value.setWidth n).setWidth w ^^^
        (BitVec.ofBool (value.getLsbD n)).setWidth w <<< n := by
      refine BitVec.eq_of_getLsbD_eq fun i hi => ?_
      simp only [BitVec.getLsbD_xor, BitVec.getLsbD_shiftLeft, BitVec.getLsbD_setWidth,
        BitVec.getLsbD_ofBool]
      rcases Nat.lt_trichotomy i n with hlt | rfl | hgt
      · simp [hi, hlt, Nat.lt_succ_of_lt hlt]
      · simp [hi, Nat.zero_lt_of_lt hi]
      · simp [Nat.sub_ne_zero_of_lt hgt, Nat.not_lt_of_gt hgt, Nat.not_lt.mpr hgt]
    rw [List.range_succ, List.map_append, List.foldl_append, ih (Nat.le_of_succ_le hn), hlow,
      ← BitVec.xor_assoc, Function.iterate_succ_apply',
      iterate_xor p (x := x ^^^ (value.setWidth n).setWidth w), hbit]
    rfl

end ShiftRegister
