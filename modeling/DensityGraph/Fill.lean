import DensityGraph.Function

/-!
# Bulk filling

`fill(densities, applier)` writes one density per slot of a buffer, for the position the
applier gives that slot. The kinds of `density/mod.rs` fill in their own ways: a constant and
the beardifyer overwrite every slot, a wrapper fills through its input, a clamped y hands
itself to the applier's own `fill`, and a range first fills the buffer with its input's
densities and then replaces each slot by the branch that density selects. The other kinds use
the spec's default, sampling each slot's position.

The bulk path must agree with the point path. Given the contract the appliers promise for
their own `fill`, it does, for every tree: the proof is an induction over the tree, and the
range case reads each slot's input density back from the buffer.
-/

namespace DensityGraph

/-- `Applier` (`ApplierImpl`): a source of positions for bulk filling, indexed by slot, with
its own bulk `fill` of a density function. -/
structure Applier where
  «at» : ℕ → NoisePos
  fill : List ℚ → DensityFunction → List ℚ

/-- The contract assumed of the chunk-noise and interpolation appliers: their `fill` writes
the function's density at the slot's position into each slot (§5, ordering guarantees). -/
def Applier.Lawful (applier : Applier) : Prop :=
  ∀ densities function,
    applier.fill densities function = densities.mapIdx fun i _ => function.sample (applier.at i)

namespace DensityFunction

/-- `DensityFunctionImpl::fill`. The other kinds than the five of `density/mod.rs` use the
spec's default (§4.1): sample the applier's position of each slot. -/
def fill : DensityFunction → List ℚ → Applier → List ℚ
  | constant value, densities, _ => densities.map fun _ => value
  | clampedY fromY toY fromVal toVal, densities, applier =>
    applier.fill densities (clampedY fromY toY fromVal toVal)
  | range input min max inRange outRange, densities, applier =>
    (input.fill densities applier).mapIdx fun i val =>
      if min ≤ val ∧ val < max then inRange.sample (applier.at i)
      else outRange.sample (applier.at i)
  | wrapper input _, densities, applier => input.fill densities applier
  | beardifyer, densities, _ => densities.map fun _ => 0
  | function, densities, applier => densities.mapIdx fun i _ => function.sample (applier.at i)

/-- Overwriting every slot with one value is filling with a function that samples it. -/
theorem map_const_eq_mapIdx (densities : List ℚ) (value : ℚ) :
    densities.map (fun _ => value) = densities.mapIdx fun _ _ => value :=
  List.ext_getElem (by simp only [List.length_map, List.length_mapIdx]) fun _ _ _ => by
    simp only [List.getElem_map, List.getElem_mapIdx]

/-- **Bulk fill agrees with point sampling**: for an applier keeping its contract, filling any
buffer with any tree writes, into every slot, the tree's density at that slot's position. -/
theorem fill_eq_mapIdx_sample {applier : Applier} (h : applier.Lawful)
    (function : DensityFunction) (densities : List ℚ) :
    function.fill densities applier =
      densities.mapIdx fun i _ => function.sample (applier.at i) := by
  induction function generalizing densities
  case constant value => exact map_const_eq_mapIdx densities value
  case clampedY => exact h _ _
  case range input min max inRange outRange ih _ _ =>
    show (input.fill densities applier).mapIdx _ = _
    rw [ih]
    exact List.ext_getElem (by simp only [List.length_mapIdx]) fun _ _ _ => by
      simp only [List.getElem_mapIdx, sample]
  case wrapper input kind ih => exact ih densities
  case beardifyer => exact map_const_eq_mapIdx densities 0
  all_goals rfl

/-- The applier of one column, sampling slot `i` at height `i`. -/
def columnApplier : Applier where
  «at» i := ⟨0, I32.wrap i, 0⟩
  fill densities function := densities.mapIdx fun i _ => function.sample ⟨0, I32.wrap i, 0⟩

/-- A wrapped range over a column keeps the contract with a lawful applier. -/
theorem fill_eq_mapIdx_sample_column :
    columnApplier.Lawful ∧
      (wrapper (range (clampedY 0 4 0 1) 0 (1 / 2) (constant 7) beardifyer) .interpolated).fill
          [0, 0, 0, 0] columnApplier =
        [0, 0, 0, 0].mapIdx fun i _ =>
          (wrapper (range (clampedY 0 4 0 1) 0 (1 / 2) (constant 7) beardifyer)
            .interpolated).sample (columnApplier.at i) :=
  have h : columnApplier.Lawful := fun _ _ => rfl
  ⟨h, fill_eq_mapIdx_sample h _ _⟩

end DensityFunction

end DensityGraph
