import DensityGraph.BuiltIn
import DensityGraph.Bounds
import Mathlib.Tactic.FinCases

/-!
# Static bounds of the built graph

`BuiltInNoiseFunctions::new` builds its roots from constants, noises, shifts, splines, the
height gradient, ranges and wrappers, through the builder methods and their folds. None of these
needs anything of its own data for its bounds except the splines, whose evaluators must stay
within the bounds they report; the clamps and the rarity-scaled noises occur only in
`caves_spaghetti_2d_overworld` and `caves_entrances_overworld`. So, for every noise registry and
every collaborator whose splines keep their bounds, every other root is well formed, and every
node of it keeps the bounds contract. The two roots left out end in `.clamp(-1, 1)`, which
builds a clamp with lower bound `1` above upper bound `-1`: there `f64::clamp` panics, and
nothing is claimed about what those roots sample.

`noise_in_range` builds the plain affine graph over its noise, with bounds computed from the
corners of the product; for a unit noise they are exactly the hull of the two ends, whichever
order the source passes them in.
-/

namespace DensityGraph

/-- The terrain splines stay within the bounds they report, amplified or not. -/
structure Collaborators.SplinesBounded (c : Collaborators) : Prop where
  offset : ∀ amplified, (c.offsetSpline amplified).Bounded
  factor : ∀ amplified, (c.factorSpline amplified).Bounded
  jaggedness : ∀ amplified, (c.jaggednessSpline amplified).Bounded

namespace DensityFunction

section WellFormed

variable {x y : DensityFunction}

theorem wellFormed_constant (value : ℚ) : (constant value).WellFormed := trivial
theorem wellFormed_noise (noise : InternalNoise) (xzScale yScale : ℚ) :
    (DensityFunction.noise noise xzScale yScale).WellFormed := trivial
theorem wellFormed_shiftA (offsetNoise : InternalNoise) : (shiftA offsetNoise).WellFormed :=
  trivial
theorem wellFormed_shiftB (offsetNoise : InternalNoise) : (shiftB offsetNoise).WellFormed :=
  trivial
theorem wellFormed_clampedY (fromY toY : I32) (fromVal toVal : ℚ) :
    (clampedY fromY toY fromVal toVal).WellFormed := trivial
theorem wellFormed_interpolatedNoise (sampler : PositionSampler) :
    (interpolatedNoise sampler).WellFormed := trivial
theorem wellFormed_endIsland (function : PositionSampler) : (endIsland function).WellFormed :=
  trivial
theorem wellFormed_blendAlpha : blendAlpha.WellFormed := trivial
theorem wellFormed_blendOffset : blendOffset.WellFormed := trivial

/-- The folds of `create` return an argument, a constant, or a rebuilt `Linear` or `Binary`
node, none of which needs anything of its own data. -/
theorem WellFormed.create (hx : x.WellFormed) (hy : y.WellFormed) (action : BinaryType) :
    (BinaryFunction.create action x y).WellFormed := by
  unfold BinaryFunction.create
  split
  · split_ifs
    · exact hx
    · split
      · exact ⟨trivial, hx.2⟩
      · exact ⟨trivial, hx, hy⟩
  · split_ifs
    · exact hx
    · exact wellFormed_constant 0
    · split
      · exact ⟨trivial, hx.2⟩
      · exact ⟨trivial, hx, hy⟩
  · exact ⟨trivial, hx, hy⟩

theorem WellFormed.unaryCreate (hx : x.WellFormed) (unaryType : UnaryType) :
    (UnaryFunction.create unaryType x).WellFormed := ⟨trivial, hx⟩

theorem WellFormed.add (hx : x.WellFormed) (hy : y.WellFormed) : (x.add y).WellFormed :=
  hx.create hy .add
theorem WellFormed.mul (hx : x.WellFormed) (hy : y.WellFormed) : (x.mul y).WellFormed :=
  hx.create hy .mul
theorem WellFormed.addConst (hx : x.WellFormed) (value : ℚ) : (x.addConst value).WellFormed :=
  hx.add (wellFormed_constant value)
theorem WellFormed.mulConst (hx : x.WellFormed) (value : ℚ) : (x.mulConst value).WellFormed :=
  hx.mul (wellFormed_constant value)
theorem WellFormed.binaryMax (hx : x.WellFormed) (hy : y.WellFormed) :
    (x.binaryMax y).WellFormed := hx.create hy .max

theorem WellFormed.wrapper (hx : x.WellFormed) (kind : WrapperType) :
    (DensityFunction.wrapper x kind).WellFormed := ⟨trivial, hx⟩

theorem WellFormed.shiftedNoise {shiftX shiftY shiftZ : DensityFunction}
    (hx : shiftX.WellFormed) (hy : shiftY.WellFormed) (hz : shiftZ.WellFormed)
    (xzScale yScale : ℚ) (noise : InternalNoise) :
    (DensityFunction.shiftedNoise shiftX shiftY shiftZ xzScale yScale noise).WellFormed :=
  ⟨trivial, hx, hy, hz⟩

theorem WellFormed.range {input inRange outRange : DensityFunction} (hi : input.WellFormed)
    (hin : inRange.WellFormed) (hout : outRange.WellFormed) (min max : ℚ) :
    (range input min max inRange outRange).WellFormed := ⟨trivial, hi, hin, hout⟩

theorem wellFormed_noiseInRange (noise : InternalNoise) (xzScale yScale min max : ℚ) :
    (noiseInRange noise xzScale yScale min max).WellFormed :=
  (wellFormed_constant _).add ((wellFormed_constant _).mul (wellFormed_noise noise xzScale yScale))

theorem WellFormed.veritcalRangeChoice {input inRange : DensityFunction}
    (hi : input.WellFormed) (hin : inRange.WellFormed) (min max out : I32) :
    (DensityGraph.veritcalRangeChoice input inRange min max out).WellFormed :=
  (hi.range hin (wellFormed_constant _) _ _).wrapper _

theorem WellFormed.lerpDensity {delta start end' : DensityFunction} (hd : delta.WellFormed)
    (hs : start.WellFormed) (he : end'.WellFormed) :
    (DensityGraph.lerpDensity delta start end').WellFormed := by
  unfold DensityGraph.lerpDensity lerpDensityStaticStart
  split
  · exact (hd.mul (he.addConst _)).addConst _
  · have hw := hd.wrapper .cacheOnce
    exact (hs.mul ((hw.mulConst _).addConst _)).add (he.mul hw)

theorem WellFormed.applyBlending (hx : x.WellFormed) {blend : DensityFunction}
    (hb : blend.WellFormed) : (DensityGraph.applyBlending x blend).WellFormed :=
  ((WellFormed.lerpDensity wellFormed_blendAlpha hb hx).wrapper _).wrapper _

end WellFormed

/-! ## Noise mapped onto a range -/

/-- **`noise_in_range` reports the hull of its two ends**: for a noise whose `max_value` is `1`,
the node reports exactly `[min(lo, hi), max(lo, hi)]`, whichever order the ends are passed in,
and keeps the bounds contract. -/
theorem noiseInRange_hull (noise : InternalNoise) (hm : noise.maxValue = 1)
    (xzScale yScale lo hi : ℚ) :
    (noiseInRange noise xzScale yScale lo hi).min = Min.min lo hi ∧
      (noiseInRange noise xzScale yScale lo hi).max = Max.max lo hi ∧
      (noiseInRange noise xzScale yScale lo hi).BoundsSound := by
  rw [noiseInRange_eq]
  refine ⟨?_, ?_, (boundsSound_constant _).binary
    ((boundsSound_constant _).binary (boundsSound_noise _ _ _) _) _⟩
  · simp only [DensityFunction.min, DensityFunction.max, BinaryType.minOf, hm, min_self, mul_one,
      mul_neg]
    rcases le_total lo hi with h | h
    · rw [min_eq_left h, min_eq_left (by linarith)]
      ring
    · rw [min_eq_right h, min_eq_right (by linarith)]
      ring
  · simp only [DensityFunction.min, DensityFunction.max, BinaryType.maxOf, hm, max_self, mul_one,
      mul_neg]
    rcases le_total lo hi with h | h
    · rw [max_eq_right h, max_eq_right (by linarith)]
      ring
    · rw [max_eq_left h, max_eq_left (by linarith)]
      ring

/-- The spaghetti roughness modulator's range, passed as `(0, -0.1)`, is reported as
`[-0.1, 0]` for a unit noise. -/
theorem noiseInRange_hull_reversed :
    (constantNoise 1).maxValue = 1 ∧
      (noiseInRange (constantNoise 1) 1 1 0 (-0.1)).min = Min.min 0 (-0.1) ∧
      (noiseInRange (constantNoise 1) 1 1 0 (-0.1)).max = Max.max 0 (-0.1) ∧
      (noiseInRange (constantNoise 1) 1 1 0 (-0.1)).BoundsSound :=
  have hm : (constantNoise 1).maxValue = 1 := abs_one
  ⟨hm, noiseInRange_hull (constantNoise 1) hm 1 1 0 (-0.1)⟩

/-! ## The sloped-cheese bundles -/

section Splines

variable {c : Collaborators} (hs : c.SplinesBounded) {a b d e : DensityFunction}
  (amplified : Bool)
include hs

theorem wellFormed_createOffsetSpline (ha : a.WellFormed) (hb : b.WellFormed)
    (hd : d.WellFormed) : (c.createOffsetSpline a b d amplified).WellFormed :=
  ⟨hs.offset amplified, fun i => by fin_cases i <;> assumption⟩

theorem wellFormed_createFactorSpline (ha : a.WellFormed) (hb : b.WellFormed)
    (hd : d.WellFormed) (he : e.WellFormed) :
    (c.createFactorSpline a b d e amplified).WellFormed :=
  ⟨hs.factor amplified, fun i => by fin_cases i <;> assumption⟩

theorem wellFormed_createJaggednessSpline (ha : a.WellFormed) (hb : b.WellFormed)
    (hd : d.WellFormed) (he : e.WellFormed) :
    (c.createJaggednessSpline a b d e amplified).WellFormed :=
  ⟨hs.jaggedness amplified, fun i => by fin_cases i <;> assumption⟩

end Splines

section SlopedCheese

variable {c : Collaborators} (hs : c.SplinesBounded) {jaggedNoise continents erosion ridges
  ridgesFolded blend ten zero base : DensityFunction} (amplified : Bool)
include hs

variable (c) in
/-- A sloped-cheese bundle is well formed when its splines keep their bounds and its inputs are
well formed. -/
theorem wellFormed_slopedCheeseFunction (hjagged : jaggedNoise.WellFormed)
    (hcontinents : continents.WellFormed) (herosion : erosion.WellFormed)
    (hridges : ridges.WellFormed) (hridgesFolded : ridgesFolded.WellFormed)
    (hblend : blend.WellFormed) (hten : ten.WellFormed) (hzero : zero.WellFormed)
    (hbase : base.WellFormed) :
    let r := slopedCheeseFunction c jaggedNoise continents erosion ridges ridgesFolded blend ten
      zero base amplified
    r.offset.WellFormed ∧ r.factor.WellFormed ∧ r.jaggedness.WellFormed ∧ r.depth.WellFormed ∧
      r.slopedCheese.WellFormed :=
  have ho := ((wellFormed_createOffsetSpline hs amplified hcontinents herosion
    hridges).addConst (-8451523 / 16777216)).applyBlending hblend
  have hf := (wellFormed_createFactorSpline hs amplified hcontinents herosion hridges
    hridgesFolded).applyBlending hten
  have hj := (wellFormed_createJaggednessSpline hs amplified hcontinents herosion hridges
    hridgesFolded).applyBlending hzero
  have hd := (wellFormed_clampedY (-64) 320 1.564 (-1.5)).add ho
  ⟨ho, hf, hj, hd, ((wellFormed_constant 4).mul (((hd.add (hj.mul
    (hjagged.unaryCreate .halfNeg))).mul hf).unaryCreate .quartNeg)).add hbase⟩

end SlopedCheese

/-! ## The roots -/

section New

open BuiltInNoiseFunctions

variable (params : BuiltInNoiseParams) {c : Collaborators} (hs : c.SplinesBounded)
include hs

/-- Every root of the built graph other than the two spaghetti cave roots is well formed: it
holds no clamp and no rarity-scaled noise, and its splines keep their bounds. -/
theorem wellFormed_builtIn :
    ∀ root ∈ (new params c).roots, root ≠ (new params c).cavesSpaghetti2dOverworld →
      root ≠ (new params c).cavesEntrancesOverworld → root.WellFormed := by
  simp only [roots, List.forall_mem_cons, List.not_mem_nil, false_implies, implies_true, and_true,
    true_and, ne_eq, not_true_eq_false]
  -- the spline coordinates: flat-cached shifted noises over the column-cached shifts
  have hshiftX := ((wellFormed_shiftA params.offset).wrapper .cache2D).wrapper .cacheFlat
  have hshiftZ := ((wellFormed_shiftB params.offset).wrapper .cache2D).wrapper .cacheFlat
  have hflat (noise : InternalNoise) : (wrapper (shiftedNoise (new params c).shiftX (constant 0)
      (new params c).shiftZ 0.25 0 noise) .cacheFlat).WellFormed :=
    (hshiftX.shiftedNoise (wellFormed_constant 0) hshiftZ _ _ _).wrapper _
  have hfolded := ((((hflat params.ridge).unaryCreate .abs).addConst (-0.6666666666666666)
    |>.unaryCreate .abs).addConst (-0.3333333333333333)).mulConst (-3)
  have hbundle (amplified : Bool) (continents erosion : InternalNoise) :=
    wellFormed_slopedCheeseFunction c hs amplified (wellFormed_noise params.jagged 1500 0)
      (hflat continents) (hflat erosion) (hflat params.ridge) hfolded wellFormed_blendOffset
      (wellFormed_constant 10) (wellFormed_constant 0)
      (wellFormed_interpolatedNoise (c.createBase3dNoiseFunction 0.25 0.125 80 160 8))
  obtain ⟨ho, hf, hj, hd, hsc⟩ := hbundle false params.continentalness params.erosion
  obtain ⟨hoL, hfL, hjL, hdL, hscL⟩ :=
    hbundle false params.continentalnessLarge params.erosionLarge
  obtain ⟨hoA, hfA, hjA, hdA, hscA⟩ := hbundle true params.continentalness params.erosion
  exact
    have hy := wellFormed_clampedY (c.minHeight * 2) (c.maxColumnHeight * 2)
      (c.minHeight * 2).toInt (c.maxColumnHeight * 2).toInt
    have hnoodle := (hy.veritcalRangeChoice (wellFormed_noise _ _ _) _ _ _).range
      (wellFormed_constant _) ((hy.veritcalRangeChoice (wellFormed_noiseInRange _ _ _ _ _) _ _
        _).add (((hy.veritcalRangeChoice (wellFormed_noise _ _ _) _ _ _).unaryCreate .abs
          |>.binaryMax ((hy.veritcalRangeChoice (wellFormed_noise _ _ _) _ _ _).unaryCreate
            .abs)).mulConst _)) _ _
    have hpillars := ((((wellFormed_noise _ _ _).mulConst _).add
      (wellFormed_noiseInRange _ _ _ _ _)).mul
        ((wellFormed_noiseInRange _ _ _ _ _).unaryCreate .cube)).wrapper _
    ⟨fun _ _ => wellFormed_constant 0, fun _ _ => wellFormed_constant 10,
      fun _ _ => wellFormed_blendAlpha, fun _ _ => wellFormed_blendOffset, fun _ _ => hy,
      fun _ _ => hshiftX, fun _ _ => hshiftZ, fun _ _ => wellFormed_interpolatedNoise _,
      fun _ _ => wellFormed_interpolatedNoise _, fun _ _ => wellFormed_interpolatedNoise _,
      fun _ _ => hflat _, fun _ _ => hflat _, fun _ _ => hflat _, fun _ _ => hfolded,
      fun _ _ => ho, fun _ _ => hf, fun _ _ => hj, fun _ _ => hd, fun _ _ => hsc,
      fun _ _ => hflat _, fun _ _ => hflat _, fun _ _ => hoL, fun _ _ => hfL, fun _ _ => hjL,
      fun _ _ => hdL, fun _ _ => hscL, fun _ _ => hoA, fun _ _ => hfA, fun _ _ => hjA,
      fun _ _ => hdA, fun _ _ => hscA,
      fun _ _ => (wellFormed_endIsland _).add (wellFormed_interpolatedNoise _),
      fun _ _ => ((wellFormed_noiseInRange _ _ _ _ _).mul
        (((wellFormed_noise _ _ _).unaryCreate .abs).addConst _)).wrapper _,
      fun _ _ => (wellFormed_noiseInRange _ _ _ _ _).wrapper _,
      fun _ _ => hnoodle, fun _ _ => hpillars⟩

/-- **The built graph keeps the bounds contract**: for every noise registry and every
collaborator whose terrain splines stay within their bounds, every node of every root of
`BuiltInNoiseFunctions::new` other than `caves_spaghetti_2d_overworld` and
`caves_entrances_overworld` reports ordered bounds that enclose its samples at every
position. -/
theorem allNodes_boundsSound_builtIn :
    ∀ root ∈ (new params c).roots, root ≠ (new params c).cavesSpaghetti2dOverworld →
      root ≠ (new params c).cavesEntrancesOverworld → root.AllNodes BoundsSound :=
  fun root hroot h2d hentrances => allNodes_of_subtrees (fun _ => BoundsSound.of_wellFormed)
    (wellFormed_builtIn params hs root hroot h2d hentrances)

end New

open BuiltInNoiseFunctions in
/-- With flat splines the overworld terrain root is one of the roots the contract covers, and
every node of it keeps the contract. -/
theorem allNodes_boundsSound_builtIn_slopedCheese :
    (flatCollaborators (-32) 200).SplinesBounded ∧
      (new silentParams (flatCollaborators (-32) 200)).slopedCheeseOverworld ∈
        (new silentParams (flatCollaborators (-32) 200)).roots ∧
      (new silentParams (flatCollaborators (-32) 200)).slopedCheeseOverworld ≠
        (new silentParams (flatCollaborators (-32) 200)).cavesSpaghetti2dOverworld ∧
      (new silentParams (flatCollaborators (-32) 200)).slopedCheeseOverworld ≠
        (new silentParams (flatCollaborators (-32) 200)).cavesEntrancesOverworld ∧
      (new silentParams (flatCollaborators (-32) 200)).slopedCheeseOverworld.AllNodes
        BoundsSound :=
  have hs : (flatCollaborators (-32) 200).SplinesBounded :=
    ⟨fun _ _ => ⟨le_rfl, le_rfl⟩, fun _ _ => ⟨le_rfl, le_rfl⟩, fun _ _ => ⟨le_rfl, le_rfl⟩⟩
  have hmem : (new silentParams (flatCollaborators (-32) 200)).slopedCheeseOverworld ∈
      (new silentParams (flatCollaborators (-32) 200)).roots := by
    simp only [BuiltInNoiseFunctions.roots, List.mem_cons, true_or, or_true]
  have h2d : (new silentParams (flatCollaborators (-32) 200)).slopedCheeseOverworld ≠
      (new silentParams (flatCollaborators (-32) 200)).cavesSpaghetti2dOverworld := nofun
  have hentrances : (new silentParams (flatCollaborators (-32) 200)).slopedCheeseOverworld ≠
      (new silentParams (flatCollaborators (-32) 200)).cavesEntrancesOverworld := nofun
  ⟨hs, hmem, h2d, hentrances, allNodes_boundsSound_builtIn silentParams hs _ hmem h2d hentrances⟩

end DensityFunction

end DensityGraph
