import DensityGraph.Basic

/-!
# Density functions

`DensityFunction` is the tagged union of `density/mod.rs`, one constructor per node kind,
with the two static operations every kind implements through `DensityFunctionImpl`:
`sample` (the density at a position) and the bounds `min`/`max`.

Constant, ClampedY, Range, Wrapper and Beardifyer are implemented in `density/mod.rs` and are
translated from it. The other kinds live in submodules that are not in the source we have
(`unary.rs`, `math.rs`, `noise.rs`, `offset.rs`, `spline.rs`, `blend.rs`, `end.rs`,
`weird.rs`); their sampling follows §3 of the spec. Blending is modelled under the no-blend
blender, the only one `NoisePosImpl::get_blender` returns. The chunk-bound cache kinds are
produced only by the chunk-sampler converter, which is not in the source either, and are left
out.
-/

namespace DensityGraph

/-- `WrapperType`: the caching or interpolation annotation of a `Wrapper` node. -/
inductive WrapperType
  | cache2D
  | cacheFlat
  | cacheOnce
  | interpolated
  | cacheCell
  deriving DecidableEq, Repr

/-- Modelled from the spec: `UnaryType` of `unary.rs`. -/
inductive UnaryType
  | abs
  | square
  | cube
  | halfNeg
  | quartNeg
  | squeeze
  deriving DecidableEq, Repr

/-- Modelled from the spec: `BinaryType` of `math.rs`. -/
inductive BinaryType
  | add
  | mul
  | min
  | max
  deriving DecidableEq, Repr

namespace UnaryType

/-- Modelled from the spec (§3, `Unary`): the map each unary kind applies to a density. -/
def applyDensity : UnaryType → ℚ → ℚ
  | abs, d => |d|
  | square, d => d * d
  | cube, d => d * d * d
  | halfNeg, d => if d < 0 then d * 0.5 else d
  | quartNeg, d => if d < 0 then d * 0.25 else d
  | squeeze, d =>
    let e := clampValue d (-1) 1
    e / 2 - e * e * e / 24

/-- Modelled from the spec: the lower bound a unary node reports for an input in
`[lo, hi]`, the least value of its map there. -/
def minOf (t : UnaryType) (lo hi : ℚ) : ℚ :=
  match t with
  | abs | square =>
    if 0 ≤ lo then t.applyDensity lo else if hi ≤ 0 then t.applyDensity hi else 0
  | _ => t.applyDensity lo

/-- Modelled from the spec: the upper bound a unary node reports for an input in
`[lo, hi]`. -/
def maxOf (t : UnaryType) (lo hi : ℚ) : ℚ :=
  match t with
  | abs | square => Max.max (t.applyDensity lo) (t.applyDensity hi)
  | _ => t.applyDensity hi

/-- `Cube` keeps the order: `b³ - a³ = (b - a) * (a² + ab + b²)`. -/
theorem applyDensity_cube_le {a b : ℚ} (hab : a ≤ b) :
    cube.applyDensity a ≤ cube.applyDensity b := by
  have hsq : 0 ≤ a * a + a * b + b * b := by nlinarith [sq_nonneg (a + b)]
  show a * a * a ≤ b * b * b
  linarith [mul_nonneg (sub_nonneg.2 hab) hsq]

/-- `HalfNeg` keeps the order: it shrinks negative densities by a positive factor. -/
theorem applyDensity_halfNeg_le {a b : ℚ} (hab : a ≤ b) :
    halfNeg.applyDensity a ≤ halfNeg.applyDensity b := by
  simp only [applyDensity]
  split_ifs <;> linarith

/-- `QuartNeg` keeps the order: it shrinks negative densities by a positive factor. -/
@[gcongr]
theorem applyDensity_quartNeg_le {a b : ℚ} (hab : a ≤ b) :
    quartNeg.applyDensity a ≤ quartNeg.applyDensity b := by
  simp only [applyDensity]
  split_ifs <;> linarith

/-! The squeeze is the soft clip `c / 2 - c³ / 24` of the density `c` clamped to `[-1, 1]`. On
that interval the cubic rises, from `-11/24` at `-1` to `11/24` at `1`, and has the sign of
`c`; so the squeeze keeps the order and the sign of the density. -/

/-- The soft-clip cubic rises on `[-1, 1]`. -/
theorem softClip_le {a b : ℚ} (ha : -1 ≤ a) (hb : b ≤ 1) (hab : a ≤ b) :
    a / 2 - a * a * a / 24 ≤ b / 2 - b * b * b / 24 := by
  -- the rise is `(b - a) * (12 - (a² + ab + b²)) / 24`, and both factors are non-negative
  have h12 : 0 ≤ 12 - (a * a + a * b + b * b) := by nlinarith
  linarith [mul_nonneg (sub_nonneg.2 hab) h12]

/-- On `[-1, 1]` the soft clip is `c` times a positive factor. -/
theorem softClip_eq_mul {c : ℚ} (h1 : -1 ≤ c) (h2 : c ≤ 1) :
    c / 2 - c * c * c / 24 = c * ((12 - c * c) / 24) ∧ 0 < (12 - c * c) / 24 :=
  ⟨by ring, by nlinarith⟩

@[gcongr]
theorem applyDensity_squeeze_le {a b : ℚ} (hab : a ≤ b) :
    squeeze.applyDensity a ≤ squeeze.applyDensity b :=
  softClip_le (clampValue_unit_mem a).1 (clampValue_unit_mem b).2
    (clampValue_le_clampValue hab _ _)

theorem applyDensity_squeeze_pos_iff (d : ℚ) : 0 < squeeze.applyDensity d ↔ 0 < d := by
  obtain ⟨heq, hpos⟩ := softClip_eq_mul (clampValue_unit_mem d).1 (clampValue_unit_mem d).2
  rw [applyDensity, heq, mul_pos_iff_of_pos_right hpos, clampValue_pos_iff]

theorem applyDensity_squeeze_eq_zero_iff (d : ℚ) : squeeze.applyDensity d = 0 ↔ d = 0 := by
  obtain ⟨heq, hpos⟩ := softClip_eq_mul (clampValue_unit_mem d).1 (clampValue_unit_mem d).2
  rw [applyDensity, heq, mul_eq_zero, or_iff_left hpos.ne', clampValue_eq_zero_iff]

/-- The squeeze never leaves `[-11/24, 11/24]`, its values at the clamp's ends. -/
theorem applyDensity_squeeze_mem (d : ℚ) :
    -11 / 24 ≤ squeeze.applyDensity d ∧ squeeze.applyDensity d ≤ 11 / 24 := by
  have hc := clampValue_unit_mem d
  rw [applyDensity]
  constructor <;> linarith [softClip_le le_rfl hc.2 hc.1, softClip_le hc.1 le_rfl hc.2]

/-- Each unary kind's reported bounds over `[lo, hi]` enclose its map of every value there:
`Abs` and `Square` by their least value on the interval and the larger end, the other kinds
because they keep the order. -/
theorem applyDensity_mem (t : UnaryType) {lo hi d : ℚ} (h1 : lo ≤ d) (h2 : d ≤ hi) :
    t.minOf lo hi ≤ t.applyDensity d ∧ t.applyDensity d ≤ t.maxOf lo hi := by
  cases t with
  | abs =>
    refine ⟨?_, abs_le_max_abs_abs h1 h2⟩
    show (if 0 ≤ lo then |lo| else if hi ≤ 0 then |hi| else 0) ≤ |d|
    split_ifs with hlo hhi
    · rwa [abs_of_nonneg hlo, abs_of_nonneg (hlo.trans h1)]
    · rw [abs_of_nonpos hhi, abs_of_nonpos (h2.trans hhi)]
      linarith
    · exact abs_nonneg d
  | square =>
    constructor
    · show (if 0 ≤ lo then lo * lo else if hi ≤ 0 then hi * hi else 0) ≤ d * d
      split_ifs with hlo hhi
      · exact mul_self_le_mul_self hlo h1
      · linarith [mul_nonneg (sub_nonneg.2 h2) (by linarith : 0 ≤ -d - hi)]
      · exact mul_self_nonneg d
    · show d * d ≤ Max.max (lo * lo) (hi * hi)
      rcases le_total 0 d with hd | hd
      · exact (mul_self_le_mul_self hd h2).trans (le_max_right _ _)
      · exact (le_max_left _ _).trans' <| by
          linarith [mul_nonneg (sub_nonneg.2 h1) (by linarith : 0 ≤ -lo - d)]
  | cube => exact ⟨applyDensity_cube_le h1, applyDensity_cube_le h2⟩
  | halfNeg => exact ⟨applyDensity_halfNeg_le h1, applyDensity_halfNeg_le h2⟩
  | quartNeg => exact ⟨applyDensity_quartNeg_le h1, applyDensity_quartNeg_le h2⟩
  | squeeze => exact ⟨applyDensity_squeeze_le h1, applyDensity_squeeze_le h2⟩

end UnaryType

namespace BinaryType

/-- Modelled from the spec (§3, `Binary`): the operation of each binary kind. -/
def apply : BinaryType → ℚ → ℚ → ℚ
  | add, a, b => a + b
  | mul, a, b => a * b
  | min, a, b => Min.min a b
  | max, a, b => Max.max a b

/-- Modelled from the spec: the lower bound of a binary node over argument bounds
`[a, b]` and `[c, d]`. -/
def minOf : BinaryType → ℚ → ℚ → ℚ → ℚ → ℚ
  | add, a, _, c, _ => a + c
  | mul, a, b, c, d => Min.min (Min.min (a * c) (a * d)) (Min.min (b * c) (b * d))
  | min, a, _, c, _ => Min.min a c
  | max, a, _, c, _ => Max.max a c

/-- Modelled from the spec: the upper bound of a binary node over argument bounds
`[a, b]` and `[c, d]`. -/
def maxOf : BinaryType → ℚ → ℚ → ℚ → ℚ → ℚ
  | add, _, b, _, d => b + d
  | mul, a, b, c, d => Max.max (Max.max (a * c) (a * d)) (Max.max (b * c) (b * d))
  | min, _, b, _, d => Min.min b d
  | max, _, b, _, d => Max.max b d

/-- Each binary kind's reported bounds enclose its result on values within its arguments'
bounds. -/
theorem apply_mem (action : BinaryType) {a b c d x y : ℚ} (hx1 : a ≤ x) (hx2 : x ≤ b)
    (hy1 : c ≤ y) (hy2 : y ≤ d) :
    action.minOf a b c d ≤ action.apply x y ∧ action.apply x y ≤ action.maxOf a b c d := by
  cases action with
  | add => exact ⟨add_le_add hx1 hy1, add_le_add hx2 hy2⟩
  | mul => exact mul_mem_corners hx1 hx2 hy1 hy2
  | min => exact ⟨min_le_min hx1 hy1, min_le_min hx2 hy2⟩
  | max => exact ⟨max_le_max hx1 hy1, max_le_max hx2 hy2⟩

end BinaryType

/-- Modelled from the spec: the evaluator of a spline of `spline.rs` over `n` coordinate
functions, a black box of their sampled values (§1, §6), with the bounds it reports. -/
structure Spline (n : ℕ) where
  eval : (Fin n → ℚ) → ℚ
  min : ℚ
  max : ℚ

/-- Modelled from the spec: a closed-form sampler whose code is not in the source we have,
the interpolated 3D noise (`InterpolatedNoiseSampler`) or the end-island mask
(`EndIslandFunction`), with static bounds that enclose it (§3, bounds invariant). -/
structure PositionSampler where
  sample : NoisePos → ℚ
  min : ℚ
  max : ℚ
  sample_mem : ∀ pos, min ≤ sample pos ∧ sample pos ≤ max

/-- Modelled from the spec: a rarity mapper of `weird.rs` (`Caves` or `Tunnels`), a fixed
piecewise map from a modulator value to a per-region scale, bounded by `maxRarity`. -/
structure RarityMapper where
  map : ℚ → ℚ
  maxRarity : ℚ

/-- `DensityFunction`: the node kinds of the density graph. Children are owned subtrees: the
`Arc` sharing of the source is invisible to sampling. -/
inductive DensityFunction where
  /-- `Clamp(ClampFunction { input, min, max })`. The constructor is named after the struct
  because `clamp` is the name of the builder method. -/
  | clampFunction (input : DensityFunction) (min max : ℚ)
  | unary (unaryType : UnaryType) (input : DensityFunction)
  | noise (noise : InternalNoise) (xzScale yScale : ℚ)
  | shiftA (offsetNoise : InternalNoise)
  | shiftB (offsetNoise : InternalNoise)
  | shiftedNoise (shiftX shiftY shiftZ : DensityFunction) (xzScale yScale : ℚ)
      (noise : InternalNoise)
  | spline (n : ℕ) (locations : Fin n → DensityFunction) (spline : Spline n)
  | constant (value : ℚ)
  | linear (slope offset : ℚ) (input : DensityFunction)
  | binary (action : BinaryType) (argument1 argument2 : DensityFunction)
  | blendOffset
  | blendAlpha
  | blendDensity (input : DensityFunction)
  /-- `ClampedY(YClampedFunction { from, to, from_val, to_val })`. -/
  | clampedY (fromY toY : I32) (fromVal toVal : ℚ)
  | interpolatedNoise (sampler : PositionSampler)
  | endIsland (function : PositionSampler)
  | wierd (input : DensityFunction) (noise : InternalNoise) (rarityMapper : RarityMapper)
  | range (input : DensityFunction) (min max : ℚ) (inRange outRange : DensityFunction)
  | wrapper (input : DensityFunction) (wrapper : WrapperType)
  | beardifyer

namespace DensityFunction

/-- `DensityFunctionImpl::sample`. The kinds of `density/mod.rs` are translated from it:
`ConstantFunction`, `YClampedFunction` (`clamped_map` of the integer y), `RangeFunction`
(`in_range` when `min ≤ d < max` for the input's density `d`), `WrapperFunction` (transparent)
and `BeardifyerFunction` (zero). The others follow §3 of the spec. -/
@[simp] def sample : DensityFunction → NoisePos → ℚ
  | clampFunction input min max, pos => clampValue (input.sample pos) min max
  | unary unaryType input, pos => unaryType.applyDensity (input.sample pos)
  | noise noiseRef xzScale yScale, pos =>
    noiseRef.sample (pos.x.toInt * xzScale) (pos.y.toInt * yScale) (pos.z.toInt * xzScale)
  | shiftA offsetNoise, pos => offsetNoise.sample3d pos.x.toInt 0 pos.z.toInt
  | shiftB offsetNoise, pos => offsetNoise.sample3d pos.x.toInt pos.z.toInt 0
  | shiftedNoise shiftX shiftY shiftZ xzScale yScale noiseRef, pos =>
    noiseRef.sample (pos.x.toInt * xzScale + shiftX.sample pos)
      (pos.y.toInt * yScale + shiftY.sample pos) (pos.z.toInt * xzScale + shiftZ.sample pos)
  | spline _ locations s, pos => s.eval fun i => (locations i).sample pos
  | constant value, _ => value
  | linear slope offset input, pos => slope * input.sample pos + offset
  | binary action argument1 argument2, pos =>
    action.apply (argument1.sample pos) (argument2.sample pos)
  | blendOffset, _ => 0
  | blendAlpha, _ => 1
  | blendDensity input, pos => input.sample pos
  | clampedY fromY toY fromVal toVal, pos =>
    clampedMap pos.y.toInt fromY.toInt toY.toInt fromVal toVal
  | interpolatedNoise sampler, pos => sampler.sample pos
  | endIsland function, pos => function.sample pos
  | wierd input noiseRef rarityMapper, pos =>
    let d := rarityMapper.map (input.sample pos)
    d * noiseRef.sample (pos.x.toInt / d) (pos.y.toInt / d) (pos.z.toInt / d)
  | range input min max inRange outRange, pos =>
    let d := input.sample pos
    if min ≤ d ∧ d < max then inRange.sample pos else outRange.sample pos
  | wrapper input _, pos => input.sample pos
  | beardifyer, _ => 0

mutual

/-- `DensityFunctionImpl::min`: the static lower bound. `RangeFunction` reports the lower of
its branches' bounds, `WrapperFunction` its input's, `YClampedFunction` the lower end value. -/
@[simp] def min : DensityFunction → ℚ
  | clampFunction _ min _ => min
  | unary unaryType input => unaryType.minOf input.min input.max
  | noise noiseRef _ _ => -noiseRef.maxValue
  | shiftA offsetNoise => -(4 * offsetNoise.maxValue)
  | shiftB offsetNoise => -(4 * offsetNoise.maxValue)
  | shiftedNoise _ _ _ _ _ noiseRef => -noiseRef.maxValue
  | spline _ _ s => s.min
  | constant value => value
  | linear slope offset input => Min.min (slope * input.min) (slope * input.max) + offset
  | binary action argument1 argument2 =>
    action.minOf argument1.min argument1.max argument2.min argument2.max
  | blendOffset => 0
  | blendAlpha => 1
  | blendDensity input => input.min
  | clampedY _ _ fromVal toVal => Min.min fromVal toVal
  | interpolatedNoise sampler => sampler.min
  | endIsland function => function.min
  | wierd _ noiseRef rarityMapper => -(rarityMapper.maxRarity * noiseRef.maxValue)
  | range _ _ _ inRange outRange => Min.min inRange.min outRange.min
  | wrapper input _ => input.min
  | beardifyer => 0

/-- `DensityFunctionImpl::max`: the static upper bound. -/
@[simp] def max : DensityFunction → ℚ
  | clampFunction _ _ max => max
  | unary unaryType input => unaryType.maxOf input.min input.max
  | noise noiseRef _ _ => noiseRef.maxValue
  | shiftA offsetNoise => 4 * offsetNoise.maxValue
  | shiftB offsetNoise => 4 * offsetNoise.maxValue
  | shiftedNoise _ _ _ _ _ noiseRef => noiseRef.maxValue
  | spline _ _ s => s.max
  | constant value => value
  | linear slope offset input => Max.max (slope * input.min) (slope * input.max) + offset
  | binary action argument1 argument2 =>
    action.maxOf argument1.min argument1.max argument2.min argument2.max
  | blendOffset => 0
  | blendAlpha => 1
  | blendDensity input => input.max
  | clampedY _ _ fromVal toVal => Max.max fromVal toVal
  | interpolatedNoise sampler => sampler.max
  | endIsland function => function.max
  | wierd _ noiseRef rarityMapper => rarityMapper.maxRarity * noiseRef.maxValue
  | range _ _ _ inRange outRange => Max.max inRange.max outRange.max
  | wrapper input _ => input.max
  | beardifyer => 0

end

/-- The node is not a `Wrapper`. -/
def NotWrapper (function : DensityFunction) : Prop :=
  ∀ input kind, function ≠ wrapper input kind

/-- `P` holds at every node of the tree, the root included. -/
@[simp] def AllNodes (P : DensityFunction → Prop) : DensityFunction → Prop
  | f@(clampFunction input _ _) => P f ∧ AllNodes P input
  | f@(unary _ input) => P f ∧ AllNodes P input
  | f@(noise _ _ _) => P f
  | f@(shiftA _) => P f
  | f@(shiftB _) => P f
  | f@(shiftedNoise shiftX shiftY shiftZ _ _ _) =>
    P f ∧ AllNodes P shiftX ∧ AllNodes P shiftY ∧ AllNodes P shiftZ
  | f@(spline _ locations _) => P f ∧ ∀ i, AllNodes P (locations i)
  | f@(constant _) => P f
  | f@(linear _ _ input) => P f ∧ AllNodes P input
  | f@(binary _ argument1 argument2) => P f ∧ AllNodes P argument1 ∧ AllNodes P argument2
  | f@blendOffset => P f
  | f@blendAlpha => P f
  | f@(blendDensity input) => P f ∧ AllNodes P input
  | f@(clampedY _ _ _ _) => P f
  | f@(interpolatedNoise _) => P f
  | f@(endIsland _) => P f
  | f@(wierd input _ _) => P f ∧ AllNodes P input
  | f@(range input _ _ inRange outRange) =>
    P f ∧ AllNodes P input ∧ AllNodes P inRange ∧ AllNodes P outRange
  | f@(wrapper input _) => P f ∧ AllNodes P input
  | f@beardifyer => P f

end DensityFunction

end DensityGraph
