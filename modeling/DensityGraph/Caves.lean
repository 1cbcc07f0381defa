import DensityGraph.BuiltIn

/-!
# Noodle caves

`caves_noodle_overworld` reads the `y` root through four `veritcal_range_choice` nodes over
the band `[-60, 320]`: the noodle choice is the noodle noise inside the band and `-1` outside
it, and the root samples `64` (solid) when that choice lies in `[-1000000, 0)`, the thickness
term plus `1.5 · max(|ridge_a|, |ridge_b|)` otherwise.

The `y` root is `ClampedY` from `MIN_HEIGHT*2` to `MAX_COLUMN_HEIGHT*2` with those same end
values, the height clamped to that range. When the range strictly contains the band, a height
outside the band stays outside it and the noodle root is solid there. When `MIN_HEIGHT*2` is
`-60` itself, every lower height is lifted onto the band's edge and the noodle noise decides
there too.
-/

namespace DensityGraph

open DensityFunction BuiltInNoiseFunctions

section Noodle

variable (params : BuiltInNoiseParams) (c : Collaborators)

/-- The `y` root samples the height clamped to `[MIN_HEIGHT*2, MAX_COLUMN_HEIGHT*2]`. -/
theorem sample_new_y (h : (c.minHeight * 2).toInt < (c.maxColumnHeight * 2).toInt)
    (pos : NoisePos) :
    (new params c).y.sample pos = ((Max.max (c.minHeight * 2).toInt
      (Min.min pos.y.toInt (c.maxColumnHeight * 2).toInt) : ℤ) : ℚ) := by
  show clampedMap _ _ _ _ _ = _
  rw [clampedMap_self (by exact_mod_cast h)]
  push_cast
  rfl

/-- The noodle root at a position where the `y` root samples the integer `v`: solid outside
the band, and inside it solid exactly when the noodle noise is in `[-1000000, 0)`, the ridge
term otherwise. -/
theorem sample_new_cavesNoodleOverworld {pos : NoisePos} {v : ℤ}
    (hv : (new params c).y.sample pos = v) :
    (new params c).cavesNoodleOverworld.sample pos =
      if -60 ≤ v ∧ v ≤ 320 then
        if -1000000 ≤ (noise params.noodle 1 1).sample pos ∧
            (noise params.noodle 1 1).sample pos < 0 then 64
        else (noiseInRange params.noodleThickness 1 1 (-0.05) (-0.1)).sample pos +
          Max.max
            |(noise params.noodleRidgeA 2.6666666666666665 2.6666666666666665).sample pos|
            |(noise params.noodleRidgeB 2.6666666666666665 2.6666666666666665).sample pos| * 1.5
      else 64 := by
  have h320 : (320 : I32).toInt = 320 := I32.toInt_ofNat 320 (by norm_num)
  have h60 : (-60 : I32).toInt = -60 := I32.toInt_neg_ofNat 60 (by norm_num)
  have h1 : (-1 : I32).toInt = -1 := I32.toInt_neg_ofNat 1 (by norm_num)
  have h0 : (0 : I32).toInt = 0 := I32.toInt_ofNat 0 (by norm_num)
  have hmax : (320 : I32).toInt < 2147483647 := by rw [h320]; norm_num
  have hy : (clampedY (c.minHeight * 2) (c.maxColumnHeight * 2) (c.minHeight * 2).toInt
      (c.maxColumnHeight * 2).toInt).sample pos = v := hv
  dsimp only [new]
  conv_lhs => rw [sample]
  simp only [sample_add, sample_mulConst, sample_binaryMax, DensityFunction.abs,
    sample_unaryCreate]
  rw [sample_veritcalRangeChoice _ hmax hy, sample_veritcalRangeChoice _ hmax hy,
    sample_veritcalRangeChoice _ hmax hy, sample_veritcalRangeChoice _ hmax hy]
  simp only [sample, h320, h60, h1, h0, Int.cast_neg, Int.cast_one, Int.cast_zero]
  split_ifs <;> norm_num [UnaryType.applyDensity, BinaryType.apply] at *

/-- The noodle root is confined to the band `[-60, 320]`: the `y` root samples the height
clamped to `[MIN_HEIGHT*2, MAX_COLUMN_HEIGHT*2]`, the noodle root is solid at every height
outside the band, and inside it is solid when the noodle noise lies in `[-1000000, 0)` and
samples the thickness term plus the ridges otherwise. -/
def NoodleConfinedToBand : Prop :=
  (∀ pos : NoisePos, (new params c).y.sample pos = ((Max.max (c.minHeight * 2).toInt
    (Min.min pos.y.toInt (c.maxColumnHeight * 2).toInt) : ℤ) : ℚ)) ∧
  (∀ pos : NoisePos, pos.y.toInt < -60 ∨ 320 < pos.y.toInt →
    (new params c).cavesNoodleOverworld.sample pos = 64) ∧
  (∀ pos : NoisePos, -60 ≤ pos.y.toInt → pos.y.toInt ≤ 320 →
    (new params c).cavesNoodleOverworld.sample pos =
      if -1000000 ≤ (noise params.noodle 1 1).sample pos ∧
          (noise params.noodle 1 1).sample pos < 0 then 64
      else (noiseInRange params.noodleThickness 1 1 (-0.05) (-0.1)).sample pos +
        Max.max
          |(noise params.noodleRidgeA 2.6666666666666665 2.6666666666666665).sample pos|
          |(noise params.noodleRidgeB 2.6666666666666665 2.6666666666666665).sample pos| * 1.5)

/-- **Noodle caves are confined to their band** when the `y` root's range strictly contains
it, for every noise registry. -/
theorem cavesNoodle_confined_to_band (hmin : (c.minHeight * 2).toInt < -60)
    (hmax : 320 < (c.maxColumnHeight * 2).toInt) : NoodleConfinedToBand params c := by
  have hy := sample_new_y params c (by omega)
  refine ⟨hy, fun pos hout => ?_, fun pos hlo hhi => ?_⟩
  · rw [sample_new_cavesNoodleOverworld params c (hy pos), if_neg (by omega)]
  · rw [sample_new_cavesNoodleOverworld params c (hy pos), if_pos (by omega)]

end Noodle

/-- With `MIN_HEIGHT = -32` and `MAX_COLUMN_HEIGHT = 200` the `y` root's range `[-64, 400]`
strictly contains the band. -/
theorem cavesNoodle_confined_to_band_flat :
    ((flatCollaborators (-32) 200).minHeight * 2).toInt < -60 ∧
      320 < ((flatCollaborators (-32) 200).maxColumnHeight * 2).toInt ∧
      NoodleConfinedToBand silentParams (flatCollaborators (-32) 200) :=
  ⟨by decide, by decide, cavesNoodle_confined_to_band silentParams _ (by decide) (by decide)⟩

/-- With `MIN_HEIGHT*2 = -60`, which `MIN_HEIGHT*2 ≤ -60` allows, the height `-61` is clamped onto
the band's edge and, with every noise at `0`, the noodle root samples the ridge term `-3/40`
there, not `64`. Inside the band, a thickness noise of `-3` and a ridge noise of `128/3` make it
sample `64` while the noodle noise is `0`, outside `[-1000000, 0)`. -/
theorem cavesNoodle_band_counterexample :
    let c := flatCollaborators (-30) 200
    let params := { silentParams with
      noodleThickness := constantNoise (-3), noodleRidgeA := constantNoise (128 / 3) }
    (c.minHeight * 2).toInt ≤ -60 ∧ 320 < (c.maxColumnHeight * 2).toInt ∧
      (new silentParams c).cavesNoodleOverworld.sample ⟨0, -61, 0⟩ = -3 / 40 ∧
      (noise params.noodle 1 1).sample ⟨0, 0, 0⟩ = 0 ∧
      (new params c).cavesNoodleOverworld.sample ⟨0, 0, 0⟩ = 64 := by
  intro c params
  have hmin : (c.minHeight * 2).toInt = -60 := by decide
  have hmax : (c.maxColumnHeight * 2).toInt = 400 := by decide
  have hband : (c.minHeight * 2).toInt < (c.maxColumnHeight * 2).toInt := by decide
  have hlow : ((-61 : I32)).toInt = -61 := by decide
  have hzero : ((0 : I32)).toInt = 0 := by decide
  refine ⟨by decide, by decide, ?_, rfl, ?_⟩
  · rw [sample_new_cavesNoodleOverworld silentParams c (sample_new_y silentParams c hband _)]
    norm_num [hmin, hmax, hlow, silentParams, constantNoise, noiseInRange, BinaryType.apply]
  · rw [sample_new_cavesNoodleOverworld params c (sample_new_y params c hband _)]
    norm_num [hmin, hmax, hzero, params, silentParams, constantNoise, noiseInRange,
      BinaryType.apply, abs_of_pos]

end DensityGraph
