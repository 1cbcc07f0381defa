import DensityGraph.Construct
import Mathlib.Data.Fin.VecNotation

/-!
# The built-in density functions

`BuiltInNoiseFunctions::new` assembles the named roots of the terrain from a registry of
seeded noises. Its collaborators outside `density/mod.rs` are not in the source we have: the
height constants of `chunk`, the offset, factor and jaggedness splines of `terrain_params`,
the base 3D noise constructor, the end-island mask and the two rarity mappers. They are
gathered in `Collaborators`; the spec consumes them as given, and every result here holds for
all of them.

The graph itself is translated literally: each root is the composition the source writes,
through the builder methods and their folds, with the source's literals read as the exact
decimals they denote.
-/

namespace DensityGraph

/-- `BuiltInNoiseParams`: the registry entries `BuiltInNoiseFunctions::new` reads, one per getter
it calls. Modelled from the spec: each entry is the seeded noise it becomes. -/
structure BuiltInNoiseParams where
  offset : InternalNoise
  continentalness : InternalNoise
  erosion : InternalNoise
  ridge : InternalNoise
  jagged : InternalNoise
  continentalnessLarge : InternalNoise
  erosionLarge : InternalNoise
  spaghettiRoughnessModulator : InternalNoise
  spaghettiRoughness : InternalNoise
  spaghetti2dThickness : InternalNoise
  spaghetti2dModulator : InternalNoise
  spaghetti2d : InternalNoise
  spaghetti2dElevation : InternalNoise
  spaghetti3dRarity : InternalNoise
  spaghetti3dThickness : InternalNoise
  spaghetti3d1 : InternalNoise
  spaghetti3d2 : InternalNoise
  caveEntrance : InternalNoise
  noodle : InternalNoise
  noodleThickness : InternalNoise
  noodleRidgeA : InternalNoise
  noodleRidgeB : InternalNoise
  pillar : InternalNoise
  pillarRareness : InternalNoise
  pillarThickness : InternalNoise

/-- The collaborators of `BuiltInNoiseFunctions::new` that are not in the source we have: the
`i32` constants `MIN_HEIGHT` and `MAX_COLUMN_HEIGHT`, the shapes of the terrain splines (by
`amplified`), `InterpolatedNoiseSampler::create_base_3d_noise_function`,
`EndIslandFunction::new(0)` and the rarity mappers `Caves` and `Tunnels`. -/
structure Collaborators where
  minHeight : I32
  maxColumnHeight : I32
  offsetSpline : Bool → Spline 3
  factorSpline : Bool → Spline 4
  jaggednessSpline : Bool → Spline 4
  createBase3dNoiseFunction : ℚ → ℚ → ℚ → ℚ → ℚ → PositionSampler
  endIsland : PositionSampler
  caves : RarityMapper
  tunnels : RarityMapper

namespace Collaborators

variable (c : Collaborators)

/-- `create_offset_spline(continents, erosion, ridges, amplified)`, as a spline node over the
three functions. -/
def createOffsetSpline (continents erosion ridges : DensityFunction) (amplified : Bool) :
    DensityFunction :=
  .spline 3 ![continents, erosion, ridges] (c.offsetSpline amplified)

/-- `create_factor_spline(continents, erosion, ridges, ridges_folded, amplified)`. -/
def createFactorSpline (continents erosion ridges ridgesFolded : DensityFunction)
    (amplified : Bool) : DensityFunction :=
  .spline 4 ![continents, erosion, ridges, ridgesFolded] (c.factorSpline amplified)

/-- `create_jaggedness_spline(continents, erosion, ridges, ridges_folded, amplified)`. -/
def createJaggednessSpline (continents erosion ridges ridgesFolded : DensityFunction)
    (amplified : Bool) : DensityFunction :=
  .spline 4 ![continents, erosion, ridges, ridgesFolded] (c.jaggednessSpline amplified)

end Collaborators

/-! ## Sloped cheese -/

/-- `SlopedCheeseResult`: the five outputs of one sloped-cheese bundle. -/
structure SlopedCheeseResult where
  offset : DensityFunction
  factor : DensityFunction
  depth : DensityFunction
  jaggedness : DensityFunction
  slopedCheese : DensityFunction

set_option linter.constructorNameAsVariable false in
/-- `sloped_cheese_function`: the offset, factor and jaggedness splines blended in, the depth
gradient over `y ∈ [-64, 320]`, and the terrain density
`4 * quarter_negative((depth + jaggedness * half_negative(jagged)) * factor) + base_3d_noise`.
The offset constant is `-0.50375f32 as f64`, the single-precision number nearest `-0.50375`
widened exactly. -/
def slopedCheeseFunction (c : Collaborators) (jaggedNoise continents erosion ridges ridgesFolded
    blendOffset ten zero base3dNoiseOverworld : DensityFunction) (amplified : Bool) :
    SlopedCheeseResult :=
  let offset := applyBlending
    ((c.createOffsetSpline continents erosion ridges amplified).addConst (-8451523 / 16777216))
    blendOffset
  let factor := applyBlending
    (c.createFactorSpline continents erosion ridges ridgesFolded amplified) ten
  let depth := (DensityFunction.clampedY (-64) 320 1.564 (-1.5)).add offset
  let jaggedness := applyBlending
    (c.createJaggednessSpline continents erosion ridges ridgesFolded amplified) zero
  let density1 := jaggedness.mul jaggedNoise.halfNegative
  let density2 :=
    (DensityFunction.constant 4).mul (((depth.add density1).mul factor).quarterNegative)
  let slopedCheese := density2.add base3dNoiseOverworld
  { offset, factor, depth, jaggedness, slopedCheese }

section SlopedCheese

open DensityFunction

variable (c : Collaborators) (jaggedNoise continents erosion ridges ridgesFolded blend ten
  zero base3dNoiseOverworld : DensityFunction) (amplified : Bool) (pos : NoisePos)

/-- A bundle's depth is the height gradient plus its offset. -/
theorem slopedCheeseFunction_depth :
    (slopedCheeseFunction c jaggedNoise continents erosion ridges ridgesFolded blend ten
      zero base3dNoiseOverworld amplified).depth =
      (DensityFunction.clampedY (-64) 320 1.564 (-1.5)).add
        (slopedCheeseFunction c jaggedNoise continents erosion ridges ridgesFolded blend ten
          zero base3dNoiseOverworld amplified).offset := rfl

/-- A bundle's terrain density is wired from its depth, jaggedness and factor. -/
theorem slopedCheeseFunction_slopedCheese :
    let r := slopedCheeseFunction c jaggedNoise continents erosion ridges ridgesFolded blend
      ten zero base3dNoiseOverworld amplified
    r.slopedCheese = ((DensityFunction.constant 4).mul
      (((r.depth.add (r.jaggedness.mul jaggedNoise.halfNegative)).mul
        r.factor).quarterNegative)).add base3dNoiseOverworld := rfl

/-- Under the no-blend blender the blended offset is the offset spline, shifted. -/
theorem sample_slopedCheeseFunction_offset :
    (slopedCheeseFunction c jaggedNoise continents erosion ridges ridgesFolded blend ten
      zero base3dNoiseOverworld amplified).offset.sample pos =
      (c.createOffsetSpline continents erosion ridges amplified).sample pos +
        -8451523 / 16777216 := by
  simp only [slopedCheeseFunction, sample_applyBlending, sample_addConst]

theorem sample_slopedCheeseFunction_factor :
    (slopedCheeseFunction c jaggedNoise continents erosion ridges ridgesFolded blend ten
      zero base3dNoiseOverworld amplified).factor.sample pos =
      (c.createFactorSpline continents erosion ridges ridgesFolded amplified).sample pos := by
  simp only [slopedCheeseFunction, sample_applyBlending]

theorem sample_slopedCheeseFunction_jaggedness :
    (slopedCheeseFunction c jaggedNoise continents erosion ridges ridgesFolded blend ten
      zero base3dNoiseOverworld amplified).jaggedness.sample pos =
      (c.createJaggednessSpline continents erosion ridges ridgesFolded amplified).sample pos := by
  simp only [slopedCheeseFunction, sample_applyBlending]

/-- The terrain density of a bundle, before its base 3D noise. -/
theorem sample_slopedCheeseFunction_slopedCheese :
    let r := slopedCheeseFunction c jaggedNoise continents erosion ridges ridgesFolded blend
      ten zero base3dNoiseOverworld amplified
    r.slopedCheese.sample pos = 4 * UnaryType.quartNeg.applyDensity
      ((clampedMap pos.y.toInt (-64) 320 1.564 (-1.5) + r.offset.sample pos +
        r.jaggedness.sample pos * UnaryType.halfNeg.applyDensity (jaggedNoise.sample pos)) *
        r.factor.sample pos) + base3dNoiseOverworld.sample pos := by
  simp only [slopedCheeseFunction, sample_add, sample_mul, quarterNegative, halfNegative,
    sample_unaryCreate]
  rfl

/-- **The two branches of `lerp_density` agree**: with a constant start or not, it samples the
lerp of its end points; so under the no-blend blender `apply_blending` returns the function it
blends, whatever it blends against, and each sloped-cheese bundle's offset, factor and
jaggedness sample their splines exactly, the offset shifted by `-0.50375f32`. -/
theorem lerpDensity_branches_agree :
    (∀ delta start end' pos, (lerpDensity delta start end').sample pos =
      start.sample pos + delta.sample pos * (end'.sample pos - start.sample pos)) ∧
    (∀ delta (start : ℚ) end' pos, (lerpDensityStaticStart delta start end').sample pos =
      start + delta.sample pos * (end'.sample pos - start)) ∧
    (∀ function blend pos, (applyBlending function blend).sample pos = function.sample pos) ∧
    (slopedCheeseFunction c jaggedNoise continents erosion ridges ridgesFolded blend ten
      zero base3dNoiseOverworld amplified).offset.sample pos =
      (c.createOffsetSpline continents erosion ridges amplified).sample pos +
        -8451523 / 16777216 ∧
    (slopedCheeseFunction c jaggedNoise continents erosion ridges ridgesFolded blend ten
      zero base3dNoiseOverworld amplified).factor.sample pos =
      (c.createFactorSpline continents erosion ridges ridgesFolded amplified).sample pos ∧
    (slopedCheeseFunction c jaggedNoise continents erosion ridges ridgesFolded blend ten
      zero base3dNoiseOverworld amplified).jaggedness.sample pos =
      (c.createJaggednessSpline continents erosion ridges ridgesFolded amplified).sample pos :=
  ⟨sample_lerpDensity, sample_lerpDensityStaticStart, sample_applyBlending,
    sample_slopedCheeseFunction_offset c jaggedNoise continents erosion ridges ridgesFolded
      blend ten zero base3dNoiseOverworld amplified pos,
    sample_slopedCheeseFunction_factor c jaggedNoise continents erosion ridges ridgesFolded
      blend ten zero base3dNoiseOverworld amplified pos,
    sample_slopedCheeseFunction_jaggedness c jaggedNoise continents erosion ridges ridgesFolded
      blend ten zero base3dNoiseOverworld amplified pos⟩

end SlopedCheese

/-- `peaks_valleys_noise`, in `f32` in the source: the ridge value folded twice. -/
def peaksValleysNoise (variance : ℚ) : ℚ :=
  -(|(|variance| - 0.6666667)| - 0.33333334) * 3

/-! ## The named roots -/

/-- `BuiltInNoiseFunctions`: the named roots of the terrain. -/
structure BuiltInNoiseFunctions where
  zero : DensityFunction
  ten : DensityFunction
  blendAlpha : DensityFunction
  blendOffset : DensityFunction
  y : DensityFunction
  shiftX : DensityFunction
  shiftZ : DensityFunction
  base3dNoiseOverworld : DensityFunction
  base3dNoiseNether : DensityFunction
  base3dNoiseEnd : DensityFunction
  continentsOverworld : DensityFunction
  erosionOverworld : DensityFunction
  ridgesOverworld : DensityFunction
  ridgesFoldedOverworld : DensityFunction
  offsetOverworld : DensityFunction
  factorOverworld : DensityFunction
  jaggednessOverworld : DensityFunction
  depthOverworld : DensityFunction
  slopedCheeseOverworld : DensityFunction
  continentsOverworldLargeBiome : DensityFunction
  erosionOverworldLargeBiome : DensityFunction
  offsetOverworldLargeBiome : DensityFunction
  factorOverworldLargeBiome : DensityFunction
  jaggednessOverworldLargeBiome : DensityFunction
  depthOverworldLargeBiome : DensityFunction
  slopedCheeseOverworldLargeBiome : DensityFunction
  offsetOverworldAmplified : DensityFunction
  factorOverworldAmplified : DensityFunction
  jaggednessOverworldAmplified : DensityFunction
  depthOverworldAmplified : DensityFunction
  slopedCheeseOverworldAmplified : DensityFunction
  slopedCheeseEnd : DensityFunction
  cavesSpaghettiRoughnessFunctionOverworld : DensityFunction
  cavesSpaghetti2dThicknessModularOverworld : DensityFunction
  cavesSpaghetti2dOverworld : DensityFunction
  cavesEntrancesOverworld : DensityFunction
  cavesNoodleOverworld : DensityFunction
  cavesPillarsOverworld : DensityFunction

namespace BuiltInNoiseFunctions

set_option linter.constructorNameAsVariable false in
/-- `BuiltInNoiseFunctions::new`. -/
def new (params : BuiltInNoiseParams) (c : Collaborators) : BuiltInNoiseFunctions :=
  let blendAlpha : DensityFunction := .blendAlpha
  let blendOffset : DensityFunction := .blendOffset
  let zero : DensityFunction := .constant 0
  let ten : DensityFunction := .constant 10
  let y : DensityFunction := .clampedY (c.minHeight * 2) (c.maxColumnHeight * 2)
    (c.minHeight * 2).toInt (c.maxColumnHeight * 2).toInt
  let shiftX : DensityFunction := .wrapper (.wrapper (.shiftA params.offset) .cache2D) .cacheFlat
  let shiftZ : DensityFunction := .wrapper (.wrapper (.shiftB params.offset) .cache2D) .cacheFlat
  let base3dNoiseOverworld : DensityFunction :=
    .interpolatedNoise (c.createBase3dNoiseFunction 0.25 0.125 80 160 8)
  let base3dNoiseNether : DensityFunction :=
    .interpolatedNoise (c.createBase3dNoiseFunction 0.25 0.375 80 60 8)
  let base3dNoiseEnd : DensityFunction :=
    .interpolatedNoise (c.createBase3dNoiseFunction 0.25 0.25 80 160 4)
  -- the five flat-cached shifted noises differ only in their registry entry
  let shiftedFlat := fun noise : InternalNoise =>
    DensityFunction.wrapper (.shiftedNoise shiftX zero shiftZ 0.25 0 noise) .cacheFlat
  let continentsOverworld := shiftedFlat params.continentalness
  let erosionOverworld := shiftedFlat params.erosion
  let ridgesOverworld := shiftedFlat params.ridge
  let ridgesFoldedOverworld :=
    ((((ridgesOverworld.abs).addConst (-0.6666666666666666)).abs).addConst
      (-0.3333333333333333)).mulConst (-3)
  let jaggedNoise := DensityFunction.noise params.jagged 1500 0
  let overworld := slopedCheeseFunction c jaggedNoise continentsOverworld erosionOverworld
    ridgesOverworld ridgesFoldedOverworld blendOffset ten zero base3dNoiseOverworld false
  let continentsOverworldLargeBiome := shiftedFlat params.continentalnessLarge
  let erosionOverworldLargeBiome := shiftedFlat params.erosionLarge
  let overworldLargeBiome := slopedCheeseFunction c jaggedNoise continentsOverworldLargeBiome
    erosionOverworldLargeBiome ridgesOverworld ridgesFoldedOverworld blendOffset ten zero
    base3dNoiseOverworld false
  let overworldAmplified := slopedCheeseFunction c jaggedNoise continentsOverworld
    erosionOverworld ridgesOverworld ridgesFoldedOverworld blendOffset ten zero
    base3dNoiseOverworld true
  let slopedCheeseEnd := (DensityFunction.endIsland c.endIsland).add base3dNoiseEnd
  let cavesSpaghettiRoughnessFunctionOverworld := DensityFunction.wrapper
    ((noiseInRange params.spaghettiRoughnessModulator 1 1 0 (-0.1)).mul
      ((DensityFunction.noise params.spaghettiRoughness 1 1).abs.addConst (-0.4)))
    .cacheOnce
  let cavesSpaghetti2dThicknessModularOverworld := DensityFunction.wrapper
    (noiseInRange params.spaghetti2dThickness 2 1 (-0.6) (-1.3)) .cacheOnce
  let cavesSpaghetti2dOverworld :=
    let function1 := DensityFunction.noise params.spaghetti2dModulator 2 1
    let function2 := DensityFunction.wierd function1 params.spaghetti2d c.caves
    -- ((-64i32) / 8i32) as f64
    let function3 := noiseInRange params.spaghetti2dElevation 1 0 ((-64 : ℤ).tdiv 8) 8
    let function4 := cavesSpaghetti2dThicknessModularOverworld
    let function5 := function3.add (DensityFunction.clampedY (-64) 320 8 (-40)).abs
    let function6 := (function5.add function4).cube
    let function7 := function2.add (function4.mulConst 0.083)
    (function7.binaryMax function6).clamp (-1) 1
  let cavesEntrancesOverworld :=
    let function := DensityFunction.noise params.spaghetti3dRarity 2 1
    let function2 := noiseInRange params.spaghetti3dThickness 1 1 (-0.065) (-0.088)
    let function3 := DensityFunction.wierd function params.spaghetti3d1 c.tunnels
    let function4 := DensityFunction.wierd function params.spaghetti3d2 c.tunnels
    let function5 := ((function3.binaryMax function4).add function2).clamp (-1) 1
    let function6 := cavesSpaghettiRoughnessFunctionOverworld
    let function7 := DensityFunction.noise params.caveEntrance 0.75 0.5
    let function8 := (function7.addConst 0.37).add (.clampedY (-10) 30 0.3 0)
    DensityFunction.wrapper (function8.binaryMin (function6.add function5)) .cacheOnce
  let cavesNoodleOverworld :=
    let function := y
    let function2 := veritcalRangeChoice function (DensityFunction.noise params.noodle 1 1)
      (-60) 320 (-1)
    let function3 := veritcalRangeChoice function
      (noiseInRange params.noodleThickness 1 1 (-0.05) (-0.1)) (-60) 320 0
    let function4 := veritcalRangeChoice function
      (DensityFunction.noise params.noodleRidgeA 2.6666666666666665 2.6666666666666665)
      (-60) 320 0
    let function5 := veritcalRangeChoice function
      (DensityFunction.noise params.noodleRidgeB 2.6666666666666665 2.6666666666666665)
      (-60) 320 0
    let function6 := (function4.abs.binaryMax function5.abs).mulConst 1.5
    DensityFunction.range function2 (-1000000) 0 (.constant 64) (function3.add function6)
  let cavesPillarsOverworld :=
    let function := DensityFunction.noise params.pillar 25 0.3
    let function2 := noiseInRange params.pillarRareness 1 1 0 (-2)
    let function3 := noiseInRange params.pillarThickness 1 1 0 1.1
    let function4 := (function.mulConst 2).add function2
    DensityFunction.wrapper (function4.mul function3.cube) .cacheOnce
  { zero, ten, blendOffset, blendAlpha, y, shiftX, shiftZ, base3dNoiseOverworld,
    base3dNoiseNether, base3dNoiseEnd, continentsOverworld, erosionOverworld, ridgesOverworld,
    ridgesFoldedOverworld,
    offsetOverworld := overworld.offset
    factorOverworld := overworld.factor
    jaggednessOverworld := overworld.jaggedness
    depthOverworld := overworld.depth
    slopedCheeseOverworld := overworld.slopedCheese
    continentsOverworldLargeBiome, erosionOverworldLargeBiome,
    offsetOverworldLargeBiome := overworldLargeBiome.offset
    factorOverworldLargeBiome := overworldLargeBiome.factor
    jaggednessOverworldLargeBiome := overworldLargeBiome.jaggedness
    depthOverworldLargeBiome := overworldLargeBiome.depth
    slopedCheeseOverworldLargeBiome := overworldLargeBiome.slopedCheese
    offsetOverworldAmplified := overworldAmplified.offset
    factorOverworldAmplified := overworldAmplified.factor
    jaggednessOverworldAmplified := overworldAmplified.jaggedness
    depthOverworldAmplified := overworldAmplified.depth
    slopedCheeseOverworldAmplified := overworldAmplified.slopedCheese
    slopedCheeseEnd, cavesSpaghettiRoughnessFunctionOverworld,
    cavesSpaghetti2dThicknessModularOverworld, cavesSpaghetti2dOverworld,
    cavesEntrancesOverworld, cavesNoodleOverworld, cavesPillarsOverworld }

/-- The roots, in the order the struct declares them. -/
def roots (f : BuiltInNoiseFunctions) : List DensityFunction :=
  [f.zero, f.ten, f.blendAlpha, f.blendOffset, f.y, f.shiftX, f.shiftZ, f.base3dNoiseOverworld,
    f.base3dNoiseNether, f.base3dNoiseEnd, f.continentsOverworld, f.erosionOverworld,
    f.ridgesOverworld, f.ridgesFoldedOverworld, f.offsetOverworld, f.factorOverworld,
    f.jaggednessOverworld, f.depthOverworld, f.slopedCheeseOverworld,
    f.continentsOverworldLargeBiome, f.erosionOverworldLargeBiome, f.offsetOverworldLargeBiome,
    f.factorOverworldLargeBiome, f.jaggednessOverworldLargeBiome, f.depthOverworldLargeBiome,
    f.slopedCheeseOverworldLargeBiome, f.offsetOverworldAmplified, f.factorOverworldAmplified,
    f.jaggednessOverworldAmplified, f.depthOverworldAmplified, f.slopedCheeseOverworldAmplified,
    f.slopedCheeseEnd, f.cavesSpaghettiRoughnessFunctionOverworld,
    f.cavesSpaghetti2dThicknessModularOverworld, f.cavesSpaghetti2dOverworld,
    f.cavesEntrancesOverworld, f.cavesNoodleOverworld, f.cavesPillarsOverworld]

end BuiltInNoiseFunctions

/-! ## Concrete registries

A registry in which every noise is silent, and collaborators with flat splines: the fixed
inputs at which the general theorems are instantiated. -/

/-- A noise that samples `value` everywhere. -/
def constantNoise (value : ℚ) : InternalNoise :=
  ⟨fun _ _ _ => value, |value|, fun _ _ _ => le_rfl⟩

/-- The registry in which every noise samples `0`. -/
def silentParams : BuiltInNoiseParams :=
  let z := constantNoise 0
  ⟨z, z, z, z, z, z, z, z, z, z, z, z, z, z, z, z, z, z, z, z, z, z, z, z, z⟩

/-- Collaborators with the given height constants, and flat splines and samplers. -/
def flatCollaborators (minHeight maxColumnHeight : I32) : Collaborators where
  minHeight := minHeight
  maxColumnHeight := maxColumnHeight
  offsetSpline _ := ⟨fun _ => 0, 0, 0⟩
  factorSpline _ := ⟨fun _ => 0, 0, 0⟩
  jaggednessSpline _ := ⟨fun _ => 0, 0, 0⟩
  createBase3dNoiseFunction _ _ _ _ _ := ⟨fun _ => 0, 0, 0, fun _ => ⟨le_rfl, le_rfl⟩⟩
  endIsland := ⟨fun _ => 0, 0, 0, fun _ => ⟨le_rfl, le_rfl⟩⟩
  caves := ⟨id, 1⟩
  tunnels := ⟨id, 1⟩

end DensityGraph
