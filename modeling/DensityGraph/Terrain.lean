import DensityGraph.Column

/-!
# The terrain density falls with height

A sloped-cheese bundle samples `4 * QuartNeg((depth + jaggedness * HalfNeg(jagged)) * factor)`
plus its base 3D noise, with `depth = ClampedY(-64, 320, 1.564, -1.5) + offset`. Up a column
only the height gradient changes: the offset, factor and jaggedness splines and the jagged
noise read no `y`, and the gradient falls from `1.564` to `-1.5`. Where the factor is
non-negative, multiplying by it, `QuartNeg` and the factor `4` all keep the order, so the
density before the 3D noise never increases with `y`.

The folded ridges are built twice in the source: as the graph `ridges_folded_overworld` over
the ridge noise, with the constants `0.6666666666666666` and `0.3333333333333333`, and as the
scalar `peaks_valleys_noise`, with the `f32` constants `0.6666667` and `0.33333334`. Both are
the fold `-(||v| - a| - b) * 3` under their own reading of `a = 2/3` and `b = 1/3`, and under
any common reading the graph samples the fold of what the ridges sample. At `2/3` and `1/3` the
fold maps `[-1, 1]` into itself.
-/

namespace DensityGraph

namespace DensityFunction

/-- Up every column at which `factor` is non-negative, `density` less `base` does not
increase. -/
def DecreasesUpColumns (factor density base : DensityFunction) : Prop :=
  ∀ pos pos' : NoisePos, pos.x = pos'.x → pos.z = pos'.z → pos.y.toInt ≤ pos'.y.toInt →
    0 ≤ factor.sample pos →
      density.sample pos' - base.sample pos' ≤ density.sample pos - base.sample pos

section SlopedCheese

variable {c : Collaborators} {jaggedNoise continents erosion ridges ridgesFolded blend ten zero
  base : DensityFunction} {amplified : Bool} (hcontinents : continents.ColumnConstant)
  (herosion : erosion.ColumnConstant) (hridges : ridges.ColumnConstant)
  (hridgesFolded : ridgesFolded.ColumnConstant)
include hcontinents herosion hridges hridgesFolded

variable (c jaggedNoise blend ten zero base amplified) in
/-- A bundle's offset, factor and jaggedness read no `y` when its spline coordinates do not. -/
theorem columnConstant_slopedCheeseFunction :
    let r := slopedCheeseFunction c jaggedNoise continents erosion ridges ridgesFolded blend ten
      zero base amplified
    r.offset.ColumnConstant ∧ r.factor.ColumnConstant ∧ r.jaggedness.ColumnConstant :=
  ⟨((columnConstant_createOffsetSpline c amplified hcontinents herosion hridges).addConst
      _).applyBlending _,
    (columnConstant_createFactorSpline c amplified hcontinents herosion hridges
      hridgesFolded).applyBlending _,
    (columnConstant_createJaggednessSpline c amplified hcontinents herosion hridges
      hridgesFolded).applyBlending _⟩

variable (c blend ten zero base amplified) in
/-- **A bundle's density before its 3D noise falls with height** up every column where its
factor is non-negative, when its spline coordinates and jagged noise read no `y`. -/
theorem decreasesUpColumns_slopedCheeseFunction (hjagged : jaggedNoise.ColumnConstant) :
    DecreasesUpColumns
      (slopedCheeseFunction c jaggedNoise continents erosion ridges ridgesFolded blend ten zero
        base amplified).factor
      (slopedCheeseFunction c jaggedNoise continents erosion ridges ridgesFolded blend ten zero
        base amplified).slopedCheese base := by
  intro pos pos' hx hz hy hfactor
  have h := columnConstant_slopedCheeseFunction c jaggedNoise blend ten zero base amplified
    hcontinents herosion hridges hridgesFolded
  rw [sample_slopedCheeseFunction_slopedCheese, sample_slopedCheeseFunction_slopedCheese,
    h.1.1 pos' pos hx.symm hz.symm, h.2.1.1 pos' pos hx.symm hz.symm,
    h.2.2.1 pos' pos hx.symm hz.symm, hjagged.1 pos' pos hx.symm hz.symm]
  -- only the height gradient differs, and it falls from `1.564` to `-1.5`
  have hgradient : clampedMap (pos'.y.toInt : ℚ) (-64) 320 1.564 (-1.5) ≤
      clampedMap (pos.y.toInt : ℚ) (-64) 320 1.564 (-1.5) :=
    clampedMap_antitone (by norm_num) (by norm_num) (by exact_mod_cast hy)
  rw [add_sub_cancel_right, add_sub_cancel_right]
  gcongr

end SlopedCheese

/-! ## Peaks and valleys -/

/-- The ridge fold `-(||v| - a| - b) * 3`, with the constants `a` and `b` (`2/3` and `1/3` in
the source) as parameters. -/
def ridgeFold (a b v : ℚ) : ℚ := -(|(|v| - a)| - b) * 3

/-- The graph of `ridges_folded_overworld` over `ridges`, with its two constants as
parameters. -/
def foldRidges (ridges : DensityFunction) (a b : ℚ) : DensityFunction :=
  ((((ridges.abs).addConst (-a)).abs).addConst (-b)).mulConst (-3)

@[simp] theorem sample_foldRidges (ridges : DensityFunction) (a b : ℚ) (pos : NoisePos) :
    (foldRidges ridges a b).sample pos = ridgeFold a b (ridges.sample pos) := by
  simp only [foldRidges, ridgeFold, sample_mulConst, sample_addConst, DensityFunction.abs,
    sample_unaryCreate, UnaryType.applyDensity, ← sub_eq_add_neg]
  ring

/-- At `2/3` and `1/3` the fold maps `[-1, 1]` into itself: `|v| - 2/3` lies in
`[-2/3, 1/3]`, so its absolute value less `1/3` lies in `[-1/3, 1/3]`. -/
theorem ridgeFold_mem {v : ℚ} (hv : |v| ≤ 1) :
    -1 ≤ ridgeFold (2 / 3) (1 / 3) v ∧ ridgeFold (2 / 3) (1 / 3) v ≤ 1 := by
  have hfold : |(|v| - 2 / 3)| ≤ 2 / 3 :=
    abs_le.2 ⟨by linarith [abs_nonneg v], by linarith⟩
  have hnonneg := abs_nonneg (|v| - 2 / 3)
  rw [ridgeFold]
  constructor <;> linarith

open BuiltInNoiseFunctions in
/-- **The folded ridges agree with `peaks_valleys_noise`**: `ridges_folded_overworld` is the
fold graph over the ridges at the constants `0.6666666666666666` and `0.3333333333333333`,
`peaks_valleys_noise` is the fold at `0.6666667` and `0.33333334`; under every common reading
of the two constants the graph samples the fold of the ridge value at each position, and at
`2/3` and `1/3` the fold of a ridge value in `[-1, 1]` lies in `[-1, 1]`. -/
theorem ridgesFolded_agrees_peaksValleysNoise (params : BuiltInNoiseParams) (c : Collaborators) :
    (new params c).ridgesFoldedOverworld =
        foldRidges (new params c).ridgesOverworld 0.6666666666666666 0.3333333333333333 ∧
      (∀ v : ℚ, peaksValleysNoise v = ridgeFold 0.6666667 0.33333334 v) ∧
      (∀ (a b r : ℚ) (pos : NoisePos), (new params c).ridgesOverworld.sample pos = r →
        (foldRidges (new params c).ridgesOverworld a b).sample pos = ridgeFold a b r) ∧
      ∀ r : ℚ, |r| ≤ 1 → -1 ≤ ridgeFold (2 / 3) (1 / 3) r ∧ ridgeFold (2 / 3) (1 / 3) r ≤ 1 :=
  ⟨rfl, fun _ => rfl, fun a b _ pos hr => hr ▸ sample_foldRidges _ a b pos,
    fun _ => ridgeFold_mem⟩

open BuiltInNoiseFunctions in
/-- **Sloped cheese decreases with height**: in each of the three bundles of
`BuiltInNoiseFunctions::new` (overworld, large biome, amplified), for every noise registry and
every collaborator, the terrain density less the base 3D noise does not increase up any column
at which the bundle's factor is non-negative. -/
theorem slopedCheese_decreasesUpColumns (params : BuiltInNoiseParams) (c : Collaborators) :
    let f := new params c
    DecreasesUpColumns f.factorOverworld f.slopedCheeseOverworld f.base3dNoiseOverworld ∧
      DecreasesUpColumns f.factorOverworldLargeBiome f.slopedCheeseOverworldLargeBiome
        f.base3dNoiseOverworld ∧
      DecreasesUpColumns f.factorOverworldAmplified f.slopedCheeseOverworldAmplified
        f.base3dNoiseOverworld :=
  have hflat (noise) := (columnSafe_new_shiftedFlat params c noise).1
  have hbundle (amplified : Bool) (continents erosion : InternalNoise) :=
    decreasesUpColumns_slopedCheeseFunction c .blendOffset (.constant 10) (.constant 0)
      (.interpolatedNoise (c.createBase3dNoiseFunction 0.25 0.125 80 160 8)) amplified
      (hflat continents) (hflat erosion) (hflat params.ridge)
      (columnSafe_new_ridgesFolded params c).1 (columnConstant_noise params.jagged 1500)
  ⟨hbundle false params.continentalness params.erosion,
    hbundle false params.continentalnessLarge params.erosionLarge,
    hbundle true params.continentalness params.erosion⟩

end DensityFunction

end DensityGraph
