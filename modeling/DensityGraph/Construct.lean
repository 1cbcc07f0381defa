import DensityGraph.Function
import Mathlib.Tactic.NormNum

/-!
# Expression constructors

The builder methods of `impl DensityFunction` (`clamp`, `abs`, …, `add`, `mul`,
`binary_min`, `binary_max`) and the free helpers of `density/mod.rs` that compose them:
`lerp_density`, `lerp_density_static_start`, `map_range`, `noise_in_range`,
`veritcal_range_choice`, `apply_blending` and `apply_blend_density`.

Binary nodes go through `BinaryFunction::create` of `math.rs`, which is not in the source we
have; it is modelled from §4.1 of the spec, with its constant folds. Every fold is exact over
the rationals, so each constructor gets one sample lemma that forgets the tree's shape, and
every later proof about sampling cites these lemmas and never unfolds a constructor.
-/

namespace DensityGraph

open DensityFunction

/-! ## `BinaryFunction::create` and its folds -/

/-- Modelled from the spec (§4.1): `BinaryFunction::create` folds a constant right operand
eagerly: `add(x, 0) = x`, `mul(x, 1) = x`, `mul(x, 0) = 0`, and a constant added to or
multiplied into a `Linear` node is absorbed into its offset and slope. -/
def BinaryFunction.create (action : BinaryType) (argument1 argument2 : DensityFunction) :
    DensityFunction :=
  match action, argument2 with
  | .add, constant c =>
    if c = 0 then argument1 else
      match argument1 with
      | linear slope offset input => linear slope (offset + c) input
      | _ => binary .add argument1 (constant c)
  | .mul, constant c =>
    if c = 1 then argument1 else if c = 0 then constant 0 else
      match argument1 with
      | linear slope offset input => linear (slope * c) (offset * c) input
      | _ => binary .mul argument1 (constant c)
  | action, argument2 => binary action argument1 argument2

/-- **Constant folding preserves sampling**: whatever shape `create` returns, it samples the
operation applied to its arguments' densities. -/
@[simp] theorem BinaryFunction.sample_create (action : BinaryType)
    (argument1 argument2 : DensityFunction) (pos : NoisePos) :
    (create action argument1 argument2).sample pos =
      action.apply (argument1.sample pos) (argument2.sample pos) := by
  unfold create
  split
  · split_ifs with h
    · simp [h, BinaryType.apply]
    · split <;> simp only [sample, BinaryType.apply]
      ring
  · split_ifs with h1 h0
    · simp [h1, BinaryType.apply]
    · simp [h0, BinaryType.apply]
    · split <;> simp only [sample, BinaryType.apply]
      ring
  · rfl

/-- Modelled from the spec: `UnaryFunction::create` of `unary.rs` builds the unary node. -/
def UnaryFunction.create (unaryType : UnaryType) (input : DensityFunction) : DensityFunction :=
  unary unaryType input

/-! ## The builder methods of `impl DensityFunction` -/

namespace DensityFunction

/-- `DensityFunction::clamp`. Its parameters are declared `(max, min)` and stored by field
shorthand, so the first argument becomes the clamp's upper bound. -/
def clamp (self : DensityFunction) (max min : ℚ) : DensityFunction :=
  clampFunction self min max

def abs (self : DensityFunction) : DensityFunction := UnaryFunction.create .abs self
def square (self : DensityFunction) : DensityFunction := UnaryFunction.create .square self
def cube (self : DensityFunction) : DensityFunction := UnaryFunction.create .cube self
def halfNegative (self : DensityFunction) : DensityFunction :=
  UnaryFunction.create .halfNeg self
def quarterNegative (self : DensityFunction) : DensityFunction :=
  UnaryFunction.create .quartNeg self
def squeeze (self : DensityFunction) : DensityFunction := UnaryFunction.create .squeeze self

def add (self other : DensityFunction) : DensityFunction := BinaryFunction.create .add self other
def addConst (self : DensityFunction) (val : ℚ) : DensityFunction := self.add (constant val)
def mul (self other : DensityFunction) : DensityFunction := BinaryFunction.create .mul self other
def mulConst (self : DensityFunction) (val : ℚ) : DensityFunction := self.mul (constant val)
def binaryMin (self other : DensityFunction) : DensityFunction :=
  BinaryFunction.create .min self other
def binaryMax (self other : DensityFunction) : DensityFunction :=
  BinaryFunction.create .max self other

variable (x y : DensityFunction) (pos : NoisePos)

@[simp] theorem sample_clamp (max min : ℚ) :
    (x.clamp max min).sample pos = clampValue (x.sample pos) min max := rfl
/-- Called lower bound first, as `BuiltInNoiseFunctions::new` calls it, `clamp(-1, 1)` builds
a clamp with lower bound `1` and upper bound `-1`. `f64::clamp` panics on such bounds; the
model's total clamp returns `-1` where the input is `0`: in neither reading does the node
sample its input `0`. -/
theorem clamp_neg_one_one_swaps_bounds :
    (constant 0).clamp (-1) 1 = clampFunction (constant 0) 1 (-1) ∧
      ∀ pos, ((constant 0).clamp (-1) 1).sample pos = -1 :=
  ⟨rfl, fun _ => by norm_num [clampValue]⟩

@[simp] theorem sample_unaryCreate (unaryType : UnaryType) :
    (UnaryFunction.create unaryType x).sample pos = unaryType.applyDensity (x.sample pos) := rfl
@[simp] theorem sample_add : (x.add y).sample pos = x.sample pos + y.sample pos :=
  BinaryFunction.sample_create _ _ _ _
@[simp] theorem sample_addConst (val : ℚ) : (x.addConst val).sample pos = x.sample pos + val :=
  sample_add _ _ _
@[simp] theorem sample_mul : (x.mul y).sample pos = x.sample pos * y.sample pos :=
  BinaryFunction.sample_create _ _ _ _
@[simp] theorem sample_mulConst (val : ℚ) : (x.mulConst val).sample pos = x.sample pos * val :=
  sample_mul _ _ _
@[simp] theorem sample_binaryMin :
    (x.binaryMin y).sample pos = Min.min (x.sample pos) (y.sample pos) :=
  BinaryFunction.sample_create _ _ _ _
@[simp] theorem sample_binaryMax :
    (x.binaryMax y).sample pos = Max.max (x.sample pos) (y.sample pos) :=
  BinaryFunction.sample_create _ _ _ _

end DensityFunction

/-! ## Node invariants through the constructors

A property that every node other than a wrapper has survives every constructor: the folds of
`create` only ever return an argument, a constant or a rebuilt linear node. -/

section AllNodes

variable {P : DensityFunction → Prop} {x y : DensityFunction}

theorem allNodes_constant (hP : ∀ f, f.NotWrapper → P f) (value : ℚ) :
    (constant value).AllNodes P :=
  hP _ fun _ _ h => nomatch h

theorem allNodes_create (hP : ∀ f, f.NotWrapper → P f) (hx : x.AllNodes P)
    (hy : y.AllNodes P) (action : BinaryType) : (BinaryFunction.create action x y).AllNodes P := by
  have hbinary : ∀ action, (binary action x y).AllNodes P :=
    fun _ => ⟨hP _ (fun _ _ h => nomatch h), hx, hy⟩
  unfold BinaryFunction.create
  split
  · split_ifs
    · exact hx
    · split
      · exact ⟨hP _ (fun _ _ h => nomatch h), hx.2⟩
      · exact hbinary _
  · split_ifs
    · exact hx
    · exact allNodes_constant hP 0
    · split
      · exact ⟨hP _ (fun _ _ h => nomatch h), hx.2⟩
      · exact hbinary _
  · exact hbinary _

theorem allNodes_unaryCreate (hP : ∀ f, f.NotWrapper → P f) (hx : x.AllNodes P)
    (unaryType : UnaryType) : (UnaryFunction.create unaryType x).AllNodes P :=
  ⟨hP _ (fun _ _ h => nomatch h), hx⟩

end AllNodes

/-! ## Interpolation between density functions -/

/-- `lerp_density_static_start`: `delta * (end - start) + start` for a constant start. -/
def lerpDensityStaticStart (delta : DensityFunction) (start : ℚ) (end' : DensityFunction) :
    DensityFunction :=
  (delta.mul (end'.addConst (-start))).addConst start

/-- `lerp_density`: the static-start form when `start` is a `Constant`, otherwise
`start * (1 - delta) + end * delta` with `delta` cached once. -/
def lerpDensity (delta start end' : DensityFunction) : DensityFunction :=
  match start with
  | constant value => lerpDensityStaticStart delta value end'
  | _ =>
    let function := wrapper delta .cacheOnce
    let function2 := (function.mulConst (-1)).addConst 1
    (start.mul function2).add (end'.mul function)

theorem sample_lerpDensityStaticStart (delta : DensityFunction) (start : ℚ)
    (end' : DensityFunction) (pos : NoisePos) :
    (lerpDensityStaticStart delta start end').sample pos =
      start + delta.sample pos * (end'.sample pos - start) := by
  simp only [lerpDensityStaticStart, sample_addConst, sample_mul]
  ring

/-- Both branches of `lerp_density` sample the lerp of `start` to `end` at `delta`. -/
theorem sample_lerpDensity (delta start end' : DensityFunction) (pos : NoisePos) :
    (lerpDensity delta start end').sample pos =
      start.sample pos + delta.sample pos * (end'.sample pos - start.sample pos) := by
  unfold lerpDensity
  split
  · exact sample_lerpDensityStaticStart _ _ _ _
  · simp only [sample_add, sample_mul, sample_addConst, sample_mulConst]
    simp only [sample]
    ring

/-- `apply_blending`: the lerp from `blend` to `function` at the blend alpha, cached per
column. -/
def applyBlending (function blend : DensityFunction) : DensityFunction :=
  let function := lerpDensity blendAlpha blend function
  wrapper (wrapper function .cache2D) .cacheFlat

/-- Under the no-blend blender the alpha is one, so blending returns the blended function. -/
@[simp] theorem sample_applyBlending (function blend : DensityFunction) (pos : NoisePos) :
    (applyBlending function blend).sample pos = function.sample pos := by
  simp only [applyBlending, sample, sample_lerpDensity]
  ring

/-- `apply_blend_density`: the blended density, interpolated, scaled by `0.64` and squeezed. -/
def applyBlendDensity (density : DensityFunction) : DensityFunction :=
  let function := blendDensity density
  ((wrapper function .interpolated).mulConst 0.64).squeeze

@[simp] theorem sample_applyBlendDensity (density : DensityFunction) (pos : NoisePos) :
    (applyBlendDensity density).sample pos =
      UnaryType.squeeze.applyDensity (density.sample pos * 0.64) := by
  simp only [applyBlendDensity, DensityFunction.squeeze, sample_unaryCreate, sample_mulConst,
    sample]

/-- **The final blend-and-squeeze keeps the solid/air decision**: under the no-blend blender,
`apply_blend_density` samples the soft clip `c/2 - c³/24` of `c = clamp(0.64·d, -1, 1)`, which
is positive exactly where the density is, zero exactly where it is, rises with it, and stays in
`[-11/24, 11/24]`. -/
theorem applyBlendDensity_keeps_solidity (density : DensityFunction) (pos : NoisePos) :
    (applyBlendDensity density).sample pos =
        clampValue (0.64 * density.sample pos) (-1) 1 / 2 -
          clampValue (0.64 * density.sample pos) (-1) 1 ^ 3 / 24 ∧
      (0 < (applyBlendDensity density).sample pos ↔ 0 < density.sample pos) ∧
      ((applyBlendDensity density).sample pos = 0 ↔ density.sample pos = 0) ∧
      (∀ (density' : DensityFunction) (pos' : NoisePos),
        density.sample pos ≤ density'.sample pos' →
          (applyBlendDensity density).sample pos ≤ (applyBlendDensity density').sample pos') ∧
      -11 / 24 ≤ (applyBlendDensity density).sample pos ∧
        (applyBlendDensity density).sample pos ≤ 11 / 24 := by
  have hscale : (0 : ℚ) < 0.64 := by norm_num
  simp only [sample_applyBlendDensity]
  refine ⟨?_, ?_, ?_, fun density' pos' h => ?_, UnaryType.applyDensity_squeeze_mem _⟩
  · rw [mul_comm, UnaryType.applyDensity]
    ring
  · rw [UnaryType.applyDensity_squeeze_pos_iff, mul_pos_iff_of_pos_right hscale]
  · rw [UnaryType.applyDensity_squeeze_eq_zero_iff, mul_eq_zero, or_iff_left hscale.ne']
  · exact UnaryType.applyDensity_squeeze_le (mul_le_mul_of_nonneg_right h hscale.le)

/-! ## Ranges of noise and of height -/

/-- `map_range`: the affine map taking `[-1, 1]` onto `[min, max]`. -/
def mapRange (function : DensityFunction) (min max : ℚ) : DensityFunction :=
  let d := (min + max) * 0.5
  let e := (max - min) * 0.5
  (constant d).add ((constant e).mul function)

@[simp] theorem sample_mapRange (function : DensityFunction) (min max : ℚ) (pos : NoisePos) :
    (mapRange function min max).sample pos =
      (min + max) * 0.5 + (max - min) * 0.5 * function.sample pos := by
  simp [mapRange]

/-- `noise_in_range`: a noise mapped onto `[min, max]`. -/
def noiseInRange (noise : InternalNoise) (xzScale yScale min max : ℚ) : DensityFunction :=
  mapRange (.noise noise xzScale yScale) min max

/-- Neither fold of `map_range` fires on a noise: the node is the plain affine graph. -/
theorem noiseInRange_eq (noise : InternalNoise) (xzScale yScale min max : ℚ) :
    noiseInRange noise xzScale yScale min max = binary .add (constant ((min + max) * 0.5))
      (binary .mul (constant ((max - min) * 0.5)) (.noise noise xzScale yScale)) := rfl

/-- `veritcal_range_choice`: `in_range` on the band `[min, max]` of the input, the constant
`out` elsewhere, as a half-open `Range` up to `max + 1` computed in `i32`. -/
def veritcalRangeChoice (input inRange : DensityFunction) (min max out : I32) :
    DensityFunction :=
  wrapper (range input min.toInt (max + 1).toInt inRange (constant out.toInt)) .interpolated

/-- Below `i32::MAX` the half-open band `[min, max + 1)` is the closed band `[min, max]` on
integer inputs. -/
theorem sample_veritcalRangeChoice {input inRange : DensityFunction} {min max : I32} (out : I32)
    {pos : NoisePos} {v : ℤ} (hmax : max.toInt < 2147483647) (hv : input.sample pos = v) :
    (veritcalRangeChoice input inRange min max out).sample pos =
      if min.toInt ≤ v ∧ v ≤ max.toInt then inRange.sample pos else out.toInt := by
  have hmax1 : (max + 1).toInt = max.toInt + 1 := by
    have := max.le_toInt
    rw [I32.toInt_add_of_lt] <;> simp only [I32.toInt_one] <;> omega
  have hband : ((min.toInt : ℚ) ≤ v ∧ (v : ℚ) < ((max.toInt + 1 : ℤ) : ℚ)) ↔
      min.toInt ≤ v ∧ v ≤ max.toInt := by
    rw [Int.cast_le, Int.cast_lt, Int.lt_add_one_iff]
  simp only [veritcalRangeChoice, sample, hv, hmax1, hband]

/-- At `max = i32::MAX` the bound `max + 1` wraps to `i32::MIN`, the band is empty, and an input
of `0` in `[0, i32::MAX]` gets `out`, not `in_range`. -/
theorem veritcalRangeChoice_max_wraps (pos : NoisePos) :
    (veritcalRangeChoice (constant 0) (constant 1) 0 2147483647 0).sample pos = 0 := by
  have hwrap : (2147483647 + 1 : I32).toInt = -2147483648 := by
    rw [I32.toInt_add, I32.toInt_one, I32.toInt_ofNat _ (by norm_num)]
    rfl
  norm_num [veritcalRangeChoice, hwrap]

end DensityGraph
