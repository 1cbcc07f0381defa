import Mathlib.Algebra.Order.Field.Rat
import Mathlib.Tactic.Linarith
import Mathlib.Tactic.Positivity
import Mathlib.Tactic.Ring
import Mathlib.Algebra.Order.Field.Basic
import Mathlib.Tactic.GCongr

/-!
# Positions, noise primitives and the clamped map

The density graph samples scalar fields at integer block positions. Coordinates are Rust
`i32`s; densities are `f64`s, modelled by exact rationals, which hold every finite double
and make each arithmetic step exact. The noise primitives and the `clamped_map` helper live
outside `density/mod.rs`, so they are modelled from the spec: the noise as an opaque seeded
sampler with the bound `max_value` promises, and `clamped_map` as the clamped linear map the
spec describes for `ClampedY`.
-/

namespace DensityGraph

/-! ## Rust `i32` -/

/-- A Rust `i32`: an integer in `[-2^31, 2^31)`. -/
structure I32 where
  /-- The integer the two's complement word denotes. -/
  toInt : Int
  le_toInt : -2147483648 ≤ toInt
  toInt_lt : toInt < 2147483648
  deriving DecidableEq

namespace I32

/-- Reduce an integer into `i32` in two's complement: what `+` and `*` on `i32` produce on
overflow in a release build (a debug build panics instead). -/
def wrap (n : Int) : I32 :=
  ⟨(n + 2147483648) % 4294967296 - 2147483648, by omega, by omega⟩

instance : Add I32 := ⟨fun a b => wrap (a.toInt + b.toInt)⟩
instance : Mul I32 := ⟨fun a b => wrap (a.toInt * b.toInt)⟩
instance : Neg I32 := ⟨fun a => wrap (-a.toInt)⟩
instance (n : Nat) : OfNat I32 n := ⟨wrap n⟩

theorem toInt_wrap_of_mem {n : Int} (h1 : -2147483648 ≤ n) (h2 : n < 2147483648) :
    (wrap n).toInt = n := by
  simp only [wrap]
  omega

theorem toInt_add (a b : I32) : (a + b).toInt = (wrap (a.toInt + b.toInt)).toInt := rfl
theorem toInt_mul (a b : I32) : (a * b).toInt = (wrap (a.toInt * b.toInt)).toInt := rfl

@[simp] theorem toInt_ofNat (n : Nat) (h : n < 2147483648) :
    (no_index (OfNat.ofNat n) : I32).toInt = n :=
  toInt_wrap_of_mem (by omega) (by omega)

@[simp] theorem toInt_one : (1 : I32).toInt = 1 := toInt_ofNat 1 (by omega)

@[simp] theorem toInt_neg_ofNat (n : Nat) (h : n < 2147483648) :
    (-(no_index (OfNat.ofNat n) : I32)).toInt = -n := by
  change (wrap (-(OfNat.ofNat n : I32).toInt)).toInt = _
  rw [toInt_ofNat n h]
  exact toInt_wrap_of_mem (by omega) (by omega)

/-- Addition that does not overflow is exact. -/
theorem toInt_add_of_lt {a b : I32} (h1 : -2147483648 ≤ a.toInt + b.toInt)
    (h2 : a.toInt + b.toInt < 2147483648) : (a + b).toInt = a.toInt + b.toInt :=
  toInt_wrap_of_mem h1 h2

end I32

/-- The spec's `clamp(x, lo, hi)`: raise to `min`, then lower to `max`. For `min ≤ max` this is
`f64::clamp`. For `min > max`, where `f64::clamp` asserts and panics and the spec leaves the
clamp undefined, the value is only the model's total extension and says nothing about the
program; the bounds results keep every clamp in order (`WellFormedNode`). -/
def clampValue (value min max : ℚ) : ℚ := Min.min (Max.max value min) max

theorem clampValue_of_mem {value min max : ℚ} (h1 : min ≤ value) (h2 : value ≤ max) :
    clampValue value min max = value := by
  rw [clampValue, max_eq_left h1, min_eq_left h2]

theorem clampValue_mem {lo hi : ℚ} (h : lo ≤ hi) (value : ℚ) :
    lo ≤ clampValue value lo hi ∧ clampValue value lo hi ≤ hi :=
  ⟨le_min (le_max_right _ _) h, min_le_right _ _⟩

theorem clampValue_unit_mem (value : ℚ) :
    -1 ≤ clampValue value (-1) 1 ∧ clampValue value (-1) 1 ≤ 1 :=
  clampValue_mem (by norm_num) value
/-- The clamp keeps the order. -/
theorem clampValue_le_clampValue {v w : ℚ} (h : v ≤ w) (lo hi : ℚ) :
    clampValue v lo hi ≤ clampValue w lo hi :=
  min_le_min_right hi (max_le_max h le_rfl)

/-- Clamping to `[-1, 1]` keeps the sign. -/
theorem clampValue_pos_iff (value : ℚ) : 0 < clampValue value (-1) 1 ↔ 0 < value := by
  simp only [clampValue, lt_min_iff, lt_max_iff, zero_lt_one, and_true]
  norm_num

/-- Clamping to `[-1, 1]` is zero only through its middle branch, where it is the value. -/
theorem clampValue_eq_zero_iff (value : ℚ) : clampValue value (-1) 1 = 0 ↔ value = 0 := by
  simp only [clampValue, min_eq_iff, max_eq_iff]
  norm_num
  exact ⟨fun h => h.1.1, by rintro rfl; norm_num⟩

/-! ## Products of enclosed values -/

/-- Scaling by `k` sends `[a, b]` into the hull of `k * a` and `k * b`, whatever the sign of
`k`. -/
theorem mul_mem_hull {a b x : ℚ} (h1 : a ≤ x) (h2 : x ≤ b) (k : ℚ) :
    Min.min (k * a) (k * b) ≤ k * x ∧ k * x ≤ Max.max (k * a) (k * b) := by
  rcases le_total 0 k with hk | hk
  · exact ⟨(min_le_left _ _).trans (mul_le_mul_of_nonneg_left h1 hk),
      (mul_le_mul_of_nonneg_left h2 hk).trans (le_max_right _ _)⟩
  · exact ⟨(min_le_right _ _).trans (mul_le_mul_of_nonpos_left h2 hk),
      (mul_le_mul_of_nonpos_left h1 hk).trans (le_max_left _ _)⟩

/-- A product of values in `[a, b]` and `[c, d]` lies between the least and the greatest of
the four corner products. -/
theorem mul_mem_corners {a b c d x y : ℚ} (hx1 : a ≤ x) (hx2 : x ≤ b) (hy1 : c ≤ y)
    (hy2 : y ≤ d) :
    Min.min (Min.min (a * c) (a * d)) (Min.min (b * c) (b * d)) ≤ x * y ∧
      x * y ≤ Max.max (Max.max (a * c) (a * d)) (Max.max (b * c) (b * d)) := by
  have ha := mul_mem_hull hy1 hy2 a
  have hb := mul_mem_hull hy1 hy2 b
  have hx := mul_mem_hull hx1 hx2 y
  rw [mul_comm y a, mul_comm y b, mul_comm y x] at hx
  exact ⟨(min_le_min ha.1 hb.1).trans hx.1, hx.2.trans (max_le_max ha.2 hb.2)⟩

/-! ## Positions -/

/-- A sampling position, as `NoisePosImpl` exposes it. Every position in the source reports
the no-blend blender (the default `get_blender`), so the blender is not a field. -/
structure NoisePos where
  x : I32
  y : I32
  z : I32

/-! ## Noise primitives -/

/-- Modelled from the spec: a seeded noise primitive (`InternalNoise` of `noise.rs`; §6 of the
spec), a deterministic sampler with a conservative bound `max_value` on `|sample|`. -/
structure InternalNoise where
  sample : ℚ → ℚ → ℚ → ℚ
  maxValue : ℚ
  abs_sample_le : ∀ x y z, |sample x y z| ≤ maxValue

/-- `OffsetDensityFunction::sample_3d`: the offset noise at a quarter of the coordinates,
scaled by four. -/
def InternalNoise.sample3d (offsetNoise : InternalNoise) (x y z : ℚ) : ℚ :=
  offsetNoise.sample (x * 0.25) (y * 0.25) (z * 0.25) * 4

theorem InternalNoise.sample_mem (noise : InternalNoise) (x y z : ℚ) :
    -noise.maxValue ≤ noise.sample x y z ∧ noise.sample x y z ≤ noise.maxValue :=
  abs_le.1 (noise.abs_sample_le x y z)

theorem InternalNoise.maxValue_nonneg (noise : InternalNoise) : 0 ≤ noise.maxValue :=
  (abs_nonneg _).trans (noise.abs_sample_le 0 0 0)

/-- The offset lookup stays within four times the noise's bound. -/
theorem InternalNoise.sample3d_mem (offsetNoise : InternalNoise) (x y z : ℚ) :
    -(4 * offsetNoise.maxValue) ≤ offsetNoise.sample3d x y z ∧
      offsetNoise.sample3d x y z ≤ 4 * offsetNoise.maxValue := by
  have h := offsetNoise.sample_mem (x * 0.25) (y * 0.25) (z * 0.25)
  rw [sample3d]
  constructor <;> linarith

/-! ## The clamped map

`clamped_map(value, from, to, from_val, to_val)` maps `value` linearly from `[from, to]` onto
`[from_val, to_val]` and holds the end values outside. All its properties below come from one
normal form, `clampedMap_eq`: the progress of `value` is clamped to `[0, 1]` first. -/

/-- Modelled from the spec: `clamped_map` of the noise module (§3, `ClampedY`: "linear in
integer Y, clamped"; §8 scenario 2). -/
def clampedMap (value oldStart oldEnd newStart newEnd : ℚ) : ℚ :=
  let delta := (value - oldStart) / (oldEnd - oldStart)
  if delta < 0 then newStart
  else if 1 < delta then newEnd
  else newStart + delta * (newEnd - newStart)

/-- The clamped map is the lerp at the progress clamped to `[0, 1]`. -/
theorem clampedMap_eq (value oldStart oldEnd newStart newEnd : ℚ) :
    clampedMap value oldStart oldEnd newStart newEnd =
      newStart + max 0 (min ((value - oldStart) / (oldEnd - oldStart)) 1) *
        (newEnd - newStart) := by
  simp only [clampedMap]
  split_ifs with h0 h1
  · rw [max_eq_left (min_le_of_left_le h0.le)]; ring
  · rw [min_eq_right h1.le, max_eq_right zero_le_one]; ring
  · rw [min_eq_left (not_lt.mp h1), max_eq_right (not_lt.mp h0)]

/-- A lerp at a progress in `[0, 1]` stays between its end values. -/
theorem lerp_mem_of_mem {t a b : ℚ} (h0 : 0 ≤ t) (h1 : t ≤ 1) :
    min a b ≤ a + t * (b - a) ∧ a + t * (b - a) ≤ max a b := by
  rcases le_total a b with hab | hab
  · rw [min_eq_left hab, max_eq_right hab]
    constructor <;> nlinarith
  · rw [min_eq_right hab, max_eq_left hab]
    constructor <;> nlinarith

/-- **The clamped map never leaves its target interval**, whatever the source interval. -/
theorem clampedMap_mem (value oldStart oldEnd newStart newEnd : ℚ) :
    min newStart newEnd ≤ clampedMap value oldStart oldEnd newStart newEnd ∧
      clampedMap value oldStart oldEnd newStart newEnd ≤ max newStart newEnd := by
  rw [clampedMap_eq]
  exact lerp_mem_of_mem (le_max_left _ _) (max_le zero_le_one (min_le_right _ _))

/-- Over a proper source interval, a clamped map onto a decreasing target is antitone in
`value`. -/
theorem clampedMap_antitone {oldStart oldEnd newStart newEnd : ℚ} (h : oldStart < oldEnd)
    (hn : newEnd ≤ newStart) {v w : ℚ} (hvw : v ≤ w) :
    clampedMap w oldStart oldEnd newStart newEnd ≤
      clampedMap v oldStart oldEnd newStart newEnd := by
  rw [clampedMap_eq, clampedMap_eq]
  have hd : (v - oldStart) / (oldEnd - oldStart) ≤ (w - oldStart) / (oldEnd - oldStart) :=
    div_le_div_of_nonneg_right (by linarith) (by linarith)
  have hc := max_le_max (le_refl (0 : ℚ)) (min_le_min_right 1 hd)
  nlinarith

/-- Mapping an interval onto itself clamps the value into it. -/
theorem clampedMap_self {a b : ℚ} (h : a < b) (value : ℚ) :
    clampedMap value a b a b = max a (min value b) := by
  have hba : 0 < b - a := sub_pos.mpr h
  rw [clampedMap_eq, max_mul_of_nonneg _ _ hba.le, min_mul_of_nonneg _ _ hba.le,
    div_mul_cancel₀ _ hba.ne', zero_mul, one_mul, ← max_add_add_left, ← min_add_add_left,
    add_zero, add_sub_cancel, add_sub_cancel]

end DensityGraph
