import DensityGraph.BuiltIn
import Mathlib.Tactic.FinCases

/-!
# Column caches

`Cache2D` and `CacheFlat` memoize by column: once bound to a chunk they return, for every `y`,
the value computed for one `(x, z)`. That is sound only when the wrapped function does not
read `y` at all. `ColumnConstant` says so of a function's samples, and `ColumnCachesSound` of
every column cache in a tree.

Column-constancy is closed under the constructors, and the built graph's column caches wrap
only the shifts, the shifted noises with `y_scale = 0` and `shift_y = zero`, and the lerps of
`apply_blending` over splines of those; so every root of `BuiltInNoiseFunctions::new` keeps
its column caches sound.
-/

namespace DensityGraph

namespace DensityFunction

/-- Sampling does not read `y`: positions in one column get one density. -/
structure ColumnConstant (function : DensityFunction) : Prop where
  sample_eq : ∀ pos pos' : NoisePos, pos.x = pos'.x → pos.z = pos'.z →
    function.sample pos = function.sample pos'

/-- If the node is a `Cache2D` or `CacheFlat` wrapper, its input does not read `y`. -/
structure ColumnKeyed (function : DensityFunction) : Prop where
  columnConstant_input : ∀ input kind, function = wrapper input kind →
    kind = .cache2D ∨ kind = .cacheFlat → input.ColumnConstant

/-- Every column cache of the tree wraps a function that does not read `y`. -/
def ColumnCachesSound (function : DensityFunction) : Prop := function.AllNodes ColumnKeyed

/-! ## Functions that do not read `y` -/

section ColumnConstant

variable {x y : DensityFunction}

theorem columnConstant_of_sample {f : DensityFunction} {g : NoisePos → ℚ}
    (h : ∀ pos, f.sample pos = g pos)
    (hg : ∀ pos pos' : NoisePos, pos.x = pos'.x → pos.z = pos'.z → g pos = g pos') :
    f.ColumnConstant := ⟨fun pos pos' hx hz => by rw [h, h, hg pos pos' hx hz]⟩

theorem columnConstant_constant (value : ℚ) : (constant value).ColumnConstant :=
  ⟨fun _ _ _ _ => rfl⟩

theorem columnConstant_shiftA (offsetNoise : InternalNoise) : (shiftA offsetNoise).ColumnConstant :=
  ⟨fun _ _ hx hz => by simp only [sample, hx, hz]⟩

theorem columnConstant_shiftB (offsetNoise : InternalNoise) : (shiftB offsetNoise).ColumnConstant :=
  ⟨fun _ _ hx hz => by simp only [sample, hx, hz]⟩

/-- A noise sampled with `y_scale = 0` does not read `y`. -/
theorem columnConstant_noise (noise : InternalNoise) (xzScale : ℚ) :
    (DensityFunction.noise noise xzScale 0).ColumnConstant :=
  ⟨fun _ _ hx hz => by simp only [sample, hx, hz, mul_zero]⟩

/-- A shifted noise with `y_scale = 0` and shifts that do not read `y` does not read `y`. -/
theorem ColumnConstant.shiftedNoise {shiftX shiftY shiftZ : DensityFunction}
    (hx : shiftX.ColumnConstant) (hy : shiftY.ColumnConstant) (hz : shiftZ.ColumnConstant)
    (xzScale : ℚ) (noise : InternalNoise) :
    (DensityFunction.shiftedNoise shiftX shiftY shiftZ xzScale 0 noise).ColumnConstant :=
  ⟨fun pos pos' h1 h2 => by
    simp only [sample, h1, h2, mul_zero, hx.1 pos pos' h1 h2, hy.1 pos pos' h1 h2,
      hz.1 pos pos' h1 h2]⟩

/-- A spline over coordinates that do not read `y` does not read `y`. -/
theorem columnConstant_spline {n : ℕ} {locations : Fin n → DensityFunction}
    (h : ∀ i, (locations i).ColumnConstant) (s : Spline n) :
    (spline n locations s).ColumnConstant :=
  ⟨fun pos pos' h1 h2 => by simp only [sample, fun i => (h i).1 pos pos' h1 h2]⟩

theorem ColumnConstant.wrapper (h : x.ColumnConstant) (kind : WrapperType) :
    (DensityFunction.wrapper x kind).ColumnConstant := ⟨h.1⟩

theorem ColumnConstant.create (hx : x.ColumnConstant) (hy : y.ColumnConstant)
    (action : BinaryType) : (BinaryFunction.create action x y).ColumnConstant :=
  ⟨fun pos pos' h1 h2 => by simp only [BinaryFunction.sample_create, hx.1 pos pos' h1 h2,
    hy.1 pos pos' h1 h2]⟩

theorem ColumnConstant.unaryCreate (hx : x.ColumnConstant) (unaryType : UnaryType) :
    (UnaryFunction.create unaryType x).ColumnConstant :=
  ⟨fun pos pos' h1 h2 => by simp only [sample_unaryCreate, hx.1 pos pos' h1 h2]⟩

theorem ColumnConstant.add (hx : x.ColumnConstant) (hy : y.ColumnConstant) :
    (x.add y).ColumnConstant := hx.create hy .add
theorem ColumnConstant.mul (hx : x.ColumnConstant) (hy : y.ColumnConstant) :
    (x.mul y).ColumnConstant := hx.create hy .mul
theorem ColumnConstant.addConst (hx : x.ColumnConstant) (value : ℚ) :
    (x.addConst value).ColumnConstant := hx.add (columnConstant_constant value)
theorem ColumnConstant.mulConst (hx : x.ColumnConstant) (value : ℚ) :
    (x.mulConst value).ColumnConstant := hx.mul (columnConstant_constant value)

/-- Blending under the no-blend blender does not read `y` when the blended function does not,
whatever it is blended against. -/
theorem ColumnConstant.applyBlending (hx : x.ColumnConstant) (blend : DensityFunction) :
    (DensityGraph.applyBlending x blend).ColumnConstant :=
  columnConstant_of_sample (sample_applyBlending x blend) hx.1

end ColumnConstant

/-! ## Sound column caches -/

section ColumnCachesSound

variable {x y : DensityFunction}

theorem columnKeyed_of_notWrapper {f : DensityFunction} (h : f.NotWrapper) : f.ColumnKeyed :=
  ⟨fun input kind he _ => absurd he (h input kind)⟩

theorem columnCachesSound_constant (value : ℚ) : (constant value).ColumnCachesSound :=
  allNodes_constant (fun _ => columnKeyed_of_notWrapper) value

theorem ColumnCachesSound.create (hx : x.ColumnCachesSound) (hy : y.ColumnCachesSound)
    (action : BinaryType) : (BinaryFunction.create action x y).ColumnCachesSound :=
  allNodes_create (fun _ => columnKeyed_of_notWrapper) hx hy action

theorem ColumnCachesSound.unaryCreate (hx : x.ColumnCachesSound) (unaryType : UnaryType) :
    (UnaryFunction.create unaryType x).ColumnCachesSound :=
  allNodes_unaryCreate (fun _ => columnKeyed_of_notWrapper) hx unaryType

theorem ColumnCachesSound.add (hx : x.ColumnCachesSound) (hy : y.ColumnCachesSound) :
    (x.add y).ColumnCachesSound := hx.create hy .add
theorem ColumnCachesSound.mul (hx : x.ColumnCachesSound) (hy : y.ColumnCachesSound) :
    (x.mul y).ColumnCachesSound := hx.create hy .mul
theorem ColumnCachesSound.addConst (hx : x.ColumnCachesSound) (value : ℚ) :
    (x.addConst value).ColumnCachesSound := hx.add (columnCachesSound_constant value)
theorem ColumnCachesSound.mulConst (hx : x.ColumnCachesSound) (value : ℚ) :
    (x.mulConst value).ColumnCachesSound := hx.mul (columnCachesSound_constant value)

theorem ColumnCachesSound.binaryMin (hx : x.ColumnCachesSound) (hy : y.ColumnCachesSound) :
    (x.binaryMin y).ColumnCachesSound := hx.create hy .min
theorem ColumnCachesSound.binaryMax (hx : x.ColumnCachesSound) (hy : y.ColumnCachesSound) :
    (x.binaryMax y).ColumnCachesSound := hx.create hy .max
theorem ColumnCachesSound.abs (hx : x.ColumnCachesSound) : x.abs.ColumnCachesSound :=
  hx.unaryCreate .abs
theorem ColumnCachesSound.cube (hx : x.ColumnCachesSound) : x.cube.ColumnCachesSound :=
  hx.unaryCreate .cube
theorem ColumnCachesSound.halfNegative (hx : x.ColumnCachesSound) :
    x.halfNegative.ColumnCachesSound := hx.unaryCreate .halfNeg
theorem ColumnCachesSound.quarterNegative (hx : x.ColumnCachesSound) :
    x.quarterNegative.ColumnCachesSound := hx.unaryCreate .quartNeg
theorem ColumnCachesSound.clamp (hx : x.ColumnCachesSound) (max min : ℚ) :
    (x.clamp max min).ColumnCachesSound :=
  ⟨columnKeyed_of_notWrapper (fun _ _ h => nomatch h), hx⟩
theorem ColumnCachesSound.wierd (hx : x.ColumnCachesSound) (noise : InternalNoise)
    (rarityMapper : RarityMapper) : (wierd x noise rarityMapper).ColumnCachesSound :=
  ⟨columnKeyed_of_notWrapper (fun _ _ h => nomatch h), hx⟩
theorem ColumnCachesSound.range {input inRange outRange : DensityFunction}
    (hi : input.ColumnCachesSound) (hin : inRange.ColumnCachesSound)
    (hout : outRange.ColumnCachesSound) (min max : ℚ) :
    (range input min max inRange outRange).ColumnCachesSound :=
  ⟨columnKeyed_of_notWrapper (fun _ _ h => nomatch h), hi, hin, hout⟩
theorem ColumnCachesSound.shiftedNoise {shiftX shiftY shiftZ : DensityFunction}
    (hx : shiftX.ColumnCachesSound) (hy : shiftY.ColumnCachesSound)
    (hz : shiftZ.ColumnCachesSound) (xzScale yScale : ℚ) (noise : InternalNoise) :
    (DensityFunction.shiftedNoise shiftX shiftY shiftZ xzScale yScale noise).ColumnCachesSound :=
  ⟨columnKeyed_of_notWrapper (fun _ _ h => nomatch h), hx, hy, hz⟩
theorem ColumnCachesSound.spline {n : ℕ} {locations : Fin n → DensityFunction}
    (h : ∀ i, (locations i).ColumnCachesSound) (s : Spline n) :
    (spline n locations s).ColumnCachesSound :=
  ⟨columnKeyed_of_notWrapper (fun _ _ h => nomatch h), h⟩

theorem columnCachesSound_noise (noise : InternalNoise) (xzScale yScale : ℚ) :
    (DensityFunction.noise noise xzScale yScale).ColumnCachesSound :=
  columnKeyed_of_notWrapper fun _ _ h => nomatch h
theorem columnCachesSound_shiftA (offsetNoise : InternalNoise) :
    (shiftA offsetNoise).ColumnCachesSound :=
  columnKeyed_of_notWrapper fun _ _ h => nomatch h
theorem columnCachesSound_shiftB (offsetNoise : InternalNoise) :
    (shiftB offsetNoise).ColumnCachesSound :=
  columnKeyed_of_notWrapper fun _ _ h => nomatch h
theorem columnCachesSound_clampedY (fromY toY : I32) (fromVal toVal : ℚ) :
    (clampedY fromY toY fromVal toVal).ColumnCachesSound :=
  columnKeyed_of_notWrapper fun _ _ h => nomatch h
theorem columnCachesSound_interpolatedNoise (sampler : PositionSampler) :
    (interpolatedNoise sampler).ColumnCachesSound :=
  columnKeyed_of_notWrapper fun _ _ h => nomatch h
theorem columnCachesSound_endIsland (function : PositionSampler) :
    (endIsland function).ColumnCachesSound :=
  columnKeyed_of_notWrapper fun _ _ h => nomatch h
theorem columnCachesSound_blendAlpha : blendAlpha.ColumnCachesSound :=
  columnKeyed_of_notWrapper fun _ _ h => nomatch h
theorem columnCachesSound_blendOffset : blendOffset.ColumnCachesSound :=
  columnKeyed_of_notWrapper fun _ _ h => nomatch h

theorem columnCachesSound_noiseInRange (noise : InternalNoise) (xzScale yScale min max : ℚ) :
    (noiseInRange noise xzScale yScale min max).ColumnCachesSound :=
  (columnCachesSound_constant _).add
    ((columnCachesSound_constant _).mul (columnCachesSound_noise noise xzScale yScale))

/-- A wrapper of a function that does not read `y` is sound, whatever its kind. -/
theorem ColumnCachesSound.wrapper (hc : x.ColumnConstant) (hx : x.ColumnCachesSound)
    (kind : WrapperType) : (DensityFunction.wrapper x kind).ColumnCachesSound :=
  ⟨⟨fun _ _ he _ => by cases he; exact hc⟩, hx⟩

/-- A wrapper that does not cache by column is sound whatever it wraps. -/
theorem ColumnCachesSound.wrapper_of_ne (hx : x.ColumnCachesSound) (kind : WrapperType)
    (hk : kind ≠ .cache2D ∧ kind ≠ .cacheFlat) :
    (DensityFunction.wrapper x kind).ColumnCachesSound :=
  ⟨⟨fun _ _ he hk' => by cases he; exact absurd hk' (by tauto)⟩, hx⟩

theorem ColumnCachesSound.cacheOnce (hx : x.ColumnCachesSound) :
    (DensityFunction.wrapper x .cacheOnce).ColumnCachesSound := hx.wrapper_of_ne _ (by decide)
theorem ColumnCachesSound.interpolated (hx : x.ColumnCachesSound) :
    (DensityFunction.wrapper x .interpolated).ColumnCachesSound := hx.wrapper_of_ne _ (by decide)

theorem ColumnCachesSound.veritcalRangeChoice {input inRange : DensityFunction}
    (hi : input.ColumnCachesSound) (hin : inRange.ColumnCachesSound) (min max out : I32) :
    (DensityGraph.veritcalRangeChoice input inRange min max out).ColumnCachesSound :=
  (hi.range hin (columnCachesSound_constant _) _ _).interpolated

/-- `lerp_density` adds one wrapper, a `CacheOnce` of its delta. -/
theorem ColumnCachesSound.lerpDensity {delta start end' : DensityFunction}
    (hd : delta.ColumnCachesSound) (hs : start.ColumnCachesSound)
    (he : end'.ColumnCachesSound) :
    (DensityGraph.lerpDensity delta start end').ColumnCachesSound := by
  unfold DensityGraph.lerpDensity lerpDensityStaticStart
  split
  · exact (hd.mul (he.addConst _)).addConst _
  · have hw := hd.cacheOnce
    exact (hs.mul ((hw.mulConst _).addConst _)).add (he.mul hw)

/-- `apply_blending` caches the lerp by column, which is sound when the blended function does
not read `y`. -/
theorem ColumnCachesSound.applyBlending {blend : DensityFunction} (hc : x.ColumnConstant)
    (hx : x.ColumnCachesSound) (hb : blend.ColumnCachesSound) :
    (DensityGraph.applyBlending x blend).ColumnCachesSound :=
  have hα : blendAlpha.ColumnCachesSound := columnKeyed_of_notWrapper fun _ _ h => nomatch h
  have hl := ColumnCachesSound.lerpDensity hα hb hx
  have hlc := columnConstant_of_sample (sample_lerpDensity blendAlpha blend x)
    (fun pos pos' h1 h2 => by simp only [sample, hc.1 pos pos' h1 h2]; ring)
  .wrapper (hlc.wrapper _) (.wrapper hlc hl _) _

end ColumnCachesSound

/-! ## The built graph -/

section Splines

variable (c : Collaborators) {a b d e : DensityFunction} (amplified : Bool)

theorem columnConstant_createOffsetSpline (ha : a.ColumnConstant) (hb : b.ColumnConstant)
    (hd : d.ColumnConstant) : (c.createOffsetSpline a b d amplified).ColumnConstant :=
  columnConstant_spline (fun i => by fin_cases i <;> assumption) _

theorem columnConstant_createFactorSpline (ha : a.ColumnConstant) (hb : b.ColumnConstant)
    (hd : d.ColumnConstant) (he : e.ColumnConstant) :
    (c.createFactorSpline a b d e amplified).ColumnConstant :=
  columnConstant_spline (fun i => by fin_cases i <;> assumption) _

theorem columnConstant_createJaggednessSpline (ha : a.ColumnConstant) (hb : b.ColumnConstant)
    (hd : d.ColumnConstant) (he : e.ColumnConstant) :
    (c.createJaggednessSpline a b d e amplified).ColumnConstant :=
  columnConstant_spline (fun i => by fin_cases i <;> assumption) _

theorem columnCachesSound_createOffsetSpline (ha : a.ColumnCachesSound)
    (hb : b.ColumnCachesSound) (hd : d.ColumnCachesSound) :
    (c.createOffsetSpline a b d amplified).ColumnCachesSound :=
  ColumnCachesSound.spline (fun i => by fin_cases i <;> assumption) _

theorem columnCachesSound_createFactorSpline (ha : a.ColumnCachesSound)
    (hb : b.ColumnCachesSound) (hd : d.ColumnCachesSound) (he : e.ColumnCachesSound) :
    (c.createFactorSpline a b d e amplified).ColumnCachesSound :=
  ColumnCachesSound.spline (fun i => by fin_cases i <;> assumption) _

theorem columnCachesSound_createJaggednessSpline (ha : a.ColumnCachesSound)
    (hb : b.ColumnCachesSound) (hd : d.ColumnCachesSound) (he : e.ColumnCachesSound) :
    (c.createJaggednessSpline a b d e amplified).ColumnCachesSound :=
  ColumnCachesSound.spline (fun i => by fin_cases i <;> assumption) _

end Splines

/-- What a column cache may wrap: a function that does not read `y` and whose own column caches
are sound. -/
structure ColumnSafe (function : DensityFunction) : Prop where
  columnConstant : function.ColumnConstant
  columnCachesSound : function.ColumnCachesSound

/-- A column cache over a column-safe function is column-safe. -/
theorem ColumnSafe.wrapper {x : DensityFunction} (h : x.ColumnSafe) (kind : WrapperType) :
    (DensityFunction.wrapper x kind).ColumnSafe :=
  ⟨h.1.wrapper kind, .wrapper h.1 h.2 kind⟩

section SlopedCheese

/-! A sloped-cheese bundle blends column-constant splines under `Cache2D`/`CacheFlat`; its
caches are sound as soon as its spline coordinates are column-safe. -/

variable {c : Collaborators} {jaggedNoise continents erosion ridges ridgesFolded blend ten zero
  base : DensityFunction} {amplified : Bool} (hcontinents : continents.ColumnSafe)
  (herosion : erosion.ColumnSafe) (hridges : ridges.ColumnSafe)
  (hridgesFolded : ridgesFolded.ColumnSafe)
include hcontinents herosion hridges

theorem columnCachesSound_slopedCheeseFunction_offset (hblend : blend.ColumnCachesSound) :
    (slopedCheeseFunction c jaggedNoise continents erosion ridges ridgesFolded blend ten zero base
      amplified).offset.ColumnCachesSound :=
  .applyBlending
    ((columnConstant_createOffsetSpline c amplified hcontinents.1 herosion.1 hridges.1).addConst _)
    ((columnCachesSound_createOffsetSpline c amplified hcontinents.2 herosion.2
      hridges.2).addConst _) hblend

theorem columnCachesSound_slopedCheeseFunction_depth (hblend : blend.ColumnCachesSound) :
    (slopedCheeseFunction c jaggedNoise continents erosion ridges ridgesFolded blend ten zero base
      amplified).depth.ColumnCachesSound := by
  rw [slopedCheeseFunction_depth]
  exact (columnCachesSound_clampedY _ _ _ _).add
    (columnCachesSound_slopedCheeseFunction_offset hcontinents herosion hridges hblend)

include hridgesFolded

theorem columnCachesSound_slopedCheeseFunction_factor (hten : ten.ColumnCachesSound) :
    (slopedCheeseFunction c jaggedNoise continents erosion ridges ridgesFolded blend ten zero base
      amplified).factor.ColumnCachesSound :=
  .applyBlending
    (columnConstant_createFactorSpline c amplified hcontinents.1 herosion.1 hridges.1
      hridgesFolded.1)
    (columnCachesSound_createFactorSpline c amplified hcontinents.2 herosion.2 hridges.2
      hridgesFolded.2) hten

theorem columnCachesSound_slopedCheeseFunction_jaggedness (hzero : zero.ColumnCachesSound) :
    (slopedCheeseFunction c jaggedNoise continents erosion ridges ridgesFolded blend ten zero base
      amplified).jaggedness.ColumnCachesSound :=
  .applyBlending
    (columnConstant_createJaggednessSpline c amplified hcontinents.1 herosion.1 hridges.1
      hridgesFolded.1)
    (columnCachesSound_createJaggednessSpline c amplified hcontinents.2 herosion.2 hridges.2
      hridgesFolded.2) hzero

theorem columnCachesSound_slopedCheeseFunction_slopedCheese
    (hjagged : jaggedNoise.ColumnCachesSound) (hblend : blend.ColumnCachesSound)
    (hten : ten.ColumnCachesSound) (hzero : zero.ColumnCachesSound)
    (hbase : base.ColumnCachesSound) :
    (slopedCheeseFunction c jaggedNoise continents erosion ridges ridgesFolded blend ten zero base
      amplified).slopedCheese.ColumnCachesSound := by
  rw [slopedCheeseFunction_slopedCheese]
  exact ((columnCachesSound_constant 4).mul
      ((((columnCachesSound_slopedCheeseFunction_depth hcontinents herosion hridges hblend).add
        ((columnCachesSound_slopedCheeseFunction_jaggedness hcontinents herosion hridges
          hridgesFolded hzero).mul hjagged.halfNegative)).mul
        (columnCachesSound_slopedCheeseFunction_factor hcontinents herosion hridges hridgesFolded
          hten)).quarterNegative)).add hbase

variable (c amplified) in
/-- **A sloped-cheese bundle keeps its column caches sound** when its spline coordinates are
column-safe. -/
theorem columnCachesSound_slopedCheeseFunction (hjagged : jaggedNoise.ColumnCachesSound)
    (hblend : blend.ColumnCachesSound) (hten : ten.ColumnCachesSound)
    (hzero : zero.ColumnCachesSound) (hbase : base.ColumnCachesSound) :
    let r := slopedCheeseFunction c jaggedNoise continents erosion ridges ridgesFolded blend ten
      zero base amplified
    r.offset.ColumnCachesSound ∧ r.factor.ColumnCachesSound ∧ r.jaggedness.ColumnCachesSound ∧
      r.depth.ColumnCachesSound ∧ r.slopedCheese.ColumnCachesSound :=
  ⟨columnCachesSound_slopedCheeseFunction_offset hcontinents herosion hridges hblend,
    columnCachesSound_slopedCheeseFunction_factor hcontinents herosion hridges hridgesFolded hten,
    columnCachesSound_slopedCheeseFunction_jaggedness hcontinents herosion hridges hridgesFolded
      hzero,
    columnCachesSound_slopedCheeseFunction_depth hcontinents herosion hridges hblend,
    columnCachesSound_slopedCheeseFunction_slopedCheese hcontinents herosion hridges hridgesFolded
      hjagged hblend hten hzero hbase⟩

end SlopedCheese

section New

open BuiltInNoiseFunctions

variable (params : BuiltInNoiseParams) (c : Collaborators)

theorem columnSafe_new_shiftX : (new params c).shiftX.ColumnSafe :=
  (ColumnSafe.wrapper ⟨columnConstant_shiftA _, columnCachesSound_shiftA _⟩ _).wrapper _

theorem columnSafe_new_shiftZ : (new params c).shiftZ.ColumnSafe :=
  (ColumnSafe.wrapper ⟨columnConstant_shiftB _, columnCachesSound_shiftB _⟩ _).wrapper _

/-- `new`'s flat-cached shifted noises, the spline coordinates of every bundle, are
column-safe: `y_scale` is `0`, `shift_y` is `zero`, and the shifts do not read `y`. -/
theorem columnSafe_new_shiftedFlat (noise : InternalNoise) :
    (wrapper (shiftedNoise (new params c).shiftX (constant 0) (new params c).shiftZ 0.25 0 noise)
      .cacheFlat).ColumnSafe :=
  have hx := columnSafe_new_shiftX params c
  have hz := columnSafe_new_shiftZ params c
  ColumnSafe.wrapper ⟨hx.1.shiftedNoise (columnConstant_constant 0) hz.1 _ noise,
    hx.2.shiftedNoise (columnCachesSound_constant 0) hz.2 _ _ _⟩ _

theorem columnSafe_new_ridgesFolded : (new params c).ridgesFoldedOverworld.ColumnSafe := by
  have h := columnSafe_new_shiftedFlat params c params.ridge
  dsimp only [new]
  exact ⟨((((h.1.unaryCreate .abs).addConst _).unaryCreate .abs).addConst _).mulConst _,
    (((h.2.abs.addConst _).abs).addConst _).mulConst _⟩

/-- **The column caches of the built graph are sound**: in every root of
`BuiltInNoiseFunctions::new`, for every noise registry and every collaborator, each `Cache2D`
and `CacheFlat` wrapper wraps a function whose samples do not depend on `y`. -/
theorem columnCachesSound_builtIn :
    ∀ root ∈ (new params c).roots, root.ColumnCachesSound := by
  simp only [roots, List.forall_mem_cons, List.not_mem_nil, false_implies, implies_true, and_true]
  -- the three sloped-cheese bundles, over the flat-cached shifted noises
  have hflat := columnSafe_new_shiftedFlat params c
  have hbundle (amplified : Bool) (continents erosion : InternalNoise) :=
    columnCachesSound_slopedCheeseFunction c amplified (hflat continents) (hflat erosion)
      (hflat params.ridge) (columnSafe_new_ridgesFolded params c)
      (columnCachesSound_noise params.jagged 1500 0) columnCachesSound_blendOffset
      (columnCachesSound_constant 10) (columnCachesSound_constant 0)
      (columnCachesSound_interpolatedNoise (c.createBase3dNoiseFunction 0.25 0.125 80 160 8))
  obtain ⟨ho, hf, hj, hd, hs⟩ := hbundle false params.continentalness params.erosion
  obtain ⟨hoL, hfL, hjL, hdL, hsL⟩ :=
    hbundle false params.continentalnessLarge params.erosionLarge
  obtain ⟨hoA, hfA, hjA, hdA, hsA⟩ := hbundle true params.continentalness params.erosion
  -- the cave roots cache nothing by column; each is sound node by node
  exact
    have hnoise := columnCachesSound_noise
    have hrange := columnCachesSound_noiseInRange
    have hclampedY := columnCachesSound_clampedY
    have hrough := ((hrange _ _ _ _ _).mul ((hnoise _ _ _).abs.addConst _)).cacheOnce
    have hthick := (hrange _ _ _ _ _).cacheOnce
    have hspaghetti2d := ((((hnoise _ _ _).wierd _ _).add (hthick.mulConst _)).binaryMax
      (((hrange _ _ _ _ _).add (hclampedY _ _ _ _).abs).add hthick).cube).clamp _ _
    have hentrances := ((((hnoise _ _ _).addConst _).add (hclampedY _ _ _ _)).binaryMin
      (hrough.add (((((hnoise _ _ _).wierd _ _).binaryMax ((hnoise _ _ _).wierd _ _)).add
        (hrange _ _ _ _ _)).clamp _ _))).cacheOnce
    have hy := hclampedY _ _ _ _
    have hnoodle := (hy.veritcalRangeChoice (hnoise _ _ _) _ _ _).range
      (columnCachesSound_constant _) ((hy.veritcalRangeChoice (hrange _ _ _ _ _) _ _ _).add
        (((hy.veritcalRangeChoice (hnoise _ _ _) _ _ _).abs.binaryMax
          (hy.veritcalRangeChoice (hnoise _ _ _) _ _ _).abs).mulConst _)) _ _
    have hpillars :=
      ((((hnoise _ _ _).mulConst _).add (hrange _ _ _ _ _)).mul (hrange _ _ _ _ _).cube).cacheOnce
    ⟨columnCachesSound_constant 0, columnCachesSound_constant 10, columnCachesSound_blendAlpha,
      columnCachesSound_blendOffset, hclampedY _ _ _ _, (columnSafe_new_shiftX params c).2,
      (columnSafe_new_shiftZ params c).2, columnCachesSound_interpolatedNoise _,
      columnCachesSound_interpolatedNoise _, columnCachesSound_interpolatedNoise _, (hflat _).2,
      (hflat _).2, (hflat _).2, (columnSafe_new_ridgesFolded params c).2, ho, hf, hj, hd, hs,
      (hflat _).2, (hflat _).2, hoL, hfL, hjL, hdL, hsL, hoA, hfA, hjA, hdA, hsA,
      (columnCachesSound_endIsland _).add (columnCachesSound_interpolatedNoise _), hrough,
      hthick, hspaghetti2d, hentrances, hnoodle, hpillars⟩

/-- The overworld offset root is a `CacheFlat` wrapper; the theorem at that root gives that its
wrapped input, the column-cached lerp of the offset spline, reads no `y`. -/
theorem columnCachesSound_builtIn_offset :
    (new silentParams (flatCollaborators (-32) 200)).offsetOverworld ∈
        (new silentParams (flatCollaborators (-32) 200)).roots ∧
      ∃ input, (new silentParams (flatCollaborators (-32) 200)).offsetOverworld =
        wrapper input .cacheFlat ∧ input.ColumnConstant :=
  have hmem : (new silentParams (flatCollaborators (-32) 200)).offsetOverworld ∈
      (new silentParams (flatCollaborators (-32) 200)).roots := by
    simp only [roots, List.mem_cons, true_or, or_true]
  have h := columnCachesSound_builtIn silentParams (flatCollaborators (-32) 200) _ hmem
  ⟨hmem, _, rfl, h.1.1 _ _ rfl (Or.inr rfl)⟩

end New

end DensityFunction

end DensityGraph
