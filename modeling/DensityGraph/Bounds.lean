import DensityGraph.Function

/-!
# Static bounds

Every node reports static bounds `min`/`max`, and §3 of the spec asks that they be ordered
and enclose every sample. For the node kinds `density/mod.rs` implements this is a property
of the code: a `RangeFunction` reports the hull of its two branches' bounds, a
`WrapperFunction` its input's, a `YClampedFunction` the hull of its end values. Over trees of
these kinds whose other subtrees keep the contract, the contract holds at every node, by
induction over the tree.
-/

namespace DensityGraph

namespace DensityFunction

/-- The bounds contract of §3: the reported bounds are ordered and enclose every sample. -/
def BoundsSound (function : DensityFunction) : Prop :=
  function.min ≤ function.max ∧
    ∀ pos, function.min ≤ function.sample pos ∧ function.sample pos ≤ function.max

/-- Trees built from the node kinds `density/mod.rs` implements (Constant, ClampedY with
`from < to`, Range, Wrapper and Beardifyer) down to subtrees of other kinds that keep the
bounds contract themselves. -/
inductive CoreTree : DensityFunction → Prop
  | constant (value : ℚ) : CoreTree (.constant value)
  | clampedY {fromY toY : I32} (fromVal toVal : ℚ) (h : fromY.toInt < toY.toInt) :
      CoreTree (.clampedY fromY toY fromVal toVal)
  | range {input inRange outRange : DensityFunction} (min max : ℚ) :
      CoreTree input → CoreTree inRange → CoreTree outRange →
      CoreTree (.range input min max inRange outRange)
  | wrapper {input : DensityFunction} (kind : WrapperType) :
      CoreTree input → CoreTree (.wrapper input kind)
  | beardifyer : CoreTree .beardifyer
  | leaf {function : DensityFunction} : function.BoundsSound → CoreTree function

theorem boundsSound_constant (value : ℚ) : (constant value).BoundsSound :=
  ⟨le_rfl, fun _ => ⟨le_rfl, le_rfl⟩⟩

/-- `YClampedFunction`'s hull of its end values encloses the clamped map at every height. -/
theorem boundsSound_clampedY (fromY toY : I32) (fromVal toVal : ℚ) :
    (clampedY fromY toY fromVal toVal).BoundsSound :=
  ⟨min_le_max, fun _ => clampedMap_mem _ _ _ _ _⟩

/-- `RangeFunction`'s hull of its branches' bounds encloses whichever branch it selects. -/
theorem BoundsSound.range {inRange outRange : DensityFunction} (hin : inRange.BoundsSound)
    (hout : outRange.BoundsSound) (input : DensityFunction) (min max : ℚ) :
    (range input min max inRange outRange).BoundsSound := by
  refine ⟨(min_le_left _ _).trans (hin.1.trans (le_max_left _ _)), fun pos => ?_⟩
  simp only [DensityFunction.min, DensityFunction.max, sample]
  split_ifs
  · exact ⟨(min_le_left _ _).trans (hin.2 pos).1, (hin.2 pos).2.trans (le_max_left _ _)⟩
  · exact ⟨(min_le_right _ _).trans (hout.2 pos).1, (hout.2 pos).2.trans (le_max_right _ _)⟩

/-- `WrapperFunction` reports and samples its input. -/
theorem BoundsSound.wrapper {input : DensityFunction} (h : input.BoundsSound)
    (kind : WrapperType) : (wrapper input kind).BoundsSound := h

/-- **Bounds soundness.** Every tree over the node kinds of `density/mod.rs` whose other
subtrees keep the contract keeps it: its bounds are ordered and enclose its samples at every
position. -/
theorem boundsSound_of_coreTree {function : DensityFunction} (h : CoreTree function) :
    function.BoundsSound := by
  induction h with
  | constant value => exact boundsSound_constant value
  | clampedY fromVal toVal _ => exact boundsSound_clampedY _ _ fromVal toVal
  | range min max _ _ _ _ hin hout => exact hin.range hout _ min max
  | wrapper kind _ ih => exact ih.wrapper kind
  | beardifyer => exact ⟨le_rfl, fun _ => ⟨le_rfl, le_rfl⟩⟩
  | leaf h => exact h

/-- A range over the sloped-cheese height gradient, with a wrapped branch, keeps the
contract. -/
theorem boundsSound_of_coreTree_range :
    CoreTree (range (clampedY (-64) 320 1.564 (-1.5)) 0 1 (constant 7)
      (wrapper beardifyer .cacheOnce)) ∧
    (range (clampedY (-64) 320 1.564 (-1.5)) 0 1 (constant 7)
      (wrapper beardifyer .cacheOnce)).BoundsSound :=
  have h : CoreTree (range (clampedY (-64) 320 1.564 (-1.5)) 0 1 (constant 7)
      (wrapper beardifyer .cacheOnce)) :=
    .range 0 1 (.clampedY _ _ (by simp)) (.constant 7) (.wrapper _ .beardifyer)
  ⟨h, boundsSound_of_coreTree h⟩

end DensityFunction

/-! ## Every node kind

The kinds modelled from the spec report bounds computed from their children's (`Unary`,
`Binary`, `Linear`), from their noise's `max_value` (the noises, the shifts, `Wierd`), or from
their own data (`Clamp`, `Spline`, the samplers). Each keeps the contract given its children's,
with three conditions on a node's own data: a clamp's bounds in order, a spline evaluator within
the bounds it reports, a rarity map within its maximum. -/

/-- A spline evaluator stays within the bounds it reports, at every coordinate. -/
def Spline.Bounded {n : ℕ} (s : Spline n) : Prop := ∀ v, s.min ≤ s.eval v ∧ s.eval v ≤ s.max

/-- A rarity map stays within its reported maximum. -/
def RarityMapper.Bounded (rarityMapper : RarityMapper) : Prop :=
  ∀ d, |rarityMapper.map d| ≤ rarityMapper.maxRarity

namespace DensityFunction

/-- What a node needs of its own data for its bounds to enclose its samples. -/
def WellFormedNode : DensityFunction → Prop
  | clampFunction _ min max => min ≤ max
  | spline _ _ s => s.Bounded
  | wierd _ _ rarityMapper => rarityMapper.Bounded
  | _ => True

/-- Every node of the tree is well formed. -/
def WellFormed (function : DensityFunction) : Prop := function.AllNodes WellFormedNode

/-- Bounds that enclose every sample are ordered: positions exist. -/
theorem boundsSound_of_mem {function : DensityFunction}
    (h : ∀ pos, function.min ≤ function.sample pos ∧ function.sample pos ≤ function.max) :
    function.BoundsSound :=
  ⟨(h ⟨0, 0, 0⟩).1.trans (h ⟨0, 0, 0⟩).2, h⟩

/-- A clamp keeps the contract exactly when its bounds are in order. -/
theorem boundsSound_clampFunction_iff (input : DensityFunction) (min max : ℚ) :
    (clampFunction input min max).BoundsSound ↔ min ≤ max :=
  ⟨fun h => h.1, fun h => boundsSound_of_mem fun _ => clampValue_mem h _⟩

theorem BoundsSound.unary {input : DensityFunction} (h : input.BoundsSound) (t : UnaryType) :
    (unary t input).BoundsSound :=
  boundsSound_of_mem fun pos => t.applyDensity_mem (h.2 pos).1 (h.2 pos).2

theorem BoundsSound.binary {x y : DensityFunction} (hx : x.BoundsSound) (hy : y.BoundsSound)
    (action : BinaryType) : (binary action x y).BoundsSound :=
  boundsSound_of_mem fun pos =>
    action.apply_mem (hx.2 pos).1 (hx.2 pos).2 (hy.2 pos).1 (hy.2 pos).2

theorem BoundsSound.linear {input : DensityFunction} (h : input.BoundsSound)
    (slope offset : ℚ) : (linear slope offset input).BoundsSound :=
  boundsSound_of_mem fun pos =>
    have hk := mul_mem_hull (h.2 pos).1 (h.2 pos).2 slope
    ⟨add_le_add_right hk.1 offset, add_le_add_right hk.2 offset⟩

theorem boundsSound_noise (noise : InternalNoise) (xzScale yScale : ℚ) :
    (DensityFunction.noise noise xzScale yScale).BoundsSound :=
  boundsSound_of_mem fun _ => noise.sample_mem _ _ _

theorem boundsSound_shiftA (offsetNoise : InternalNoise) : (shiftA offsetNoise).BoundsSound :=
  boundsSound_of_mem fun _ => offsetNoise.sample3d_mem _ _ _

theorem boundsSound_shiftB (offsetNoise : InternalNoise) : (shiftB offsetNoise).BoundsSound :=
  boundsSound_of_mem fun _ => offsetNoise.sample3d_mem _ _ _

theorem boundsSound_shiftedNoise (shiftX shiftY shiftZ : DensityFunction) (xzScale yScale : ℚ)
    (noise : InternalNoise) :
    (shiftedNoise shiftX shiftY shiftZ xzScale yScale noise).BoundsSound :=
  boundsSound_of_mem fun _ => noise.sample_mem _ _ _

theorem boundsSound_spline {n : ℕ} (locations : Fin n → DensityFunction) {s : Spline n}
    (hs : s.Bounded) : (spline n locations s).BoundsSound :=
  boundsSound_of_mem fun _ => hs _

/-- `Wierd` scales its noise by the rarity `d`: `|d * noise| ≤ max_rarity * max_value`. -/
theorem boundsSound_wierd (input : DensityFunction) (noise : InternalNoise)
    {rarityMapper : RarityMapper} (hr : rarityMapper.Bounded) :
    (wierd input noise rarityMapper).BoundsSound :=
  boundsSound_of_mem fun pos => abs_le.1 <| by
    show |rarityMapper.map (input.sample pos) * noise.sample _ _ _| ≤ _
    rw [abs_mul]
    exact mul_le_mul (hr _) (noise.abs_sample_le _ _ _) (abs_nonneg _)
      ((abs_nonneg _).trans (hr 0))

/-- **The bounds contract holds at the root of every well-formed tree**, by induction over the
tree: one step lemma per node kind. -/
theorem BoundsSound.of_wellFormed {function : DensityFunction} (h : function.WellFormed) :
    function.BoundsSound := by
  induction function with
  | clampFunction input min max _ => exact (boundsSound_clampFunction_iff input min max).2 h.1
  | unary t _ ih => exact (ih h.2).unary t
  | noise noise xzScale yScale => exact boundsSound_noise noise xzScale yScale
  | shiftA offsetNoise => exact boundsSound_shiftA offsetNoise
  | shiftB offsetNoise => exact boundsSound_shiftB offsetNoise
  | shiftedNoise shiftX shiftY shiftZ xzScale yScale noise =>
    exact boundsSound_shiftedNoise shiftX shiftY shiftZ xzScale yScale noise
  | spline _ locations _ => exact boundsSound_spline locations h.1
  | constant value => exact boundsSound_constant value
  | linear slope offset _ ih => exact (ih h.2).linear slope offset
  | binary action _ _ ihx ihy => exact (ihx h.2.1).binary (ihy h.2.2) action
  | blendOffset | blendAlpha | beardifyer => exact boundsSound_of_mem fun _ => ⟨le_rfl, le_rfl⟩
  | blendDensity _ ih => exact ih h.2
  | clampedY fromY toY fromVal toVal => exact boundsSound_clampedY fromY toY fromVal toVal
  | interpolatedNoise sampler => exact boundsSound_of_mem sampler.sample_mem
  | endIsland function => exact boundsSound_of_mem function.sample_mem
  | wierd input noise _ _ => exact boundsSound_wierd input noise h.1
  | range input min max _ _ _ ihin ihout => exact (ihin h.2.2.1).range (ihout h.2.2.2) input min max
  | wrapper _ kind ih => exact (ih h.2).wrapper kind

/-- `P` at every node follows from `Q` at every node when `Q` at every node of a subtree gives
`P` at its root. -/
theorem allNodes_of_subtrees {P Q : DensityFunction → Prop} (hPQ : ∀ f, f.AllNodes Q → P f)
    {function : DensityFunction} (h : function.AllNodes Q) : function.AllNodes P := by
  induction function <;> simp only [AllNodes] at h ⊢ <;>
    first | exact hPQ _ h | exact ⟨hPQ _ h, by tauto⟩

/-- **The bounds invariant of every well-formed graph**: in a tree whose clamps have ordered
bounds, whose spline evaluators stay within the bounds they report and whose rarity maps stay
within their maxima, every node, of every kind, reports ordered bounds that enclose its samples
at every position. -/
theorem allNodes_boundsSound_of_wellFormed {function : DensityFunction}
    (h : function.WellFormed) : function.AllNodes BoundsSound :=
  allNodes_of_subtrees (fun _ => BoundsSound.of_wellFormed) h

/-- A product of a linear map of a squared height gradient and a clamp of a constant, with its clamp's
bounds in order, keeps the contract at every node. -/
theorem allNodes_boundsSound_of_wellFormed_product :
    (binary .mul (linear 2 1 (unary .square (clampedY 0 10 (-1) 3)))
      (clampFunction (constant 5) 0 1)).WellFormed ∧
    (binary .mul (linear 2 1 (unary .square (clampedY 0 10 (-1) 3)))
      (clampFunction (constant 5) 0 1)).AllNodes BoundsSound :=
  have h : (binary .mul (linear 2 1 (unary .square (clampedY 0 10 (-1) 3)))
      (clampFunction (constant 5) 0 1)).WellFormed :=
    ⟨trivial, ⟨trivial, trivial, trivial⟩, ⟨zero_le_one, trivial⟩⟩
  ⟨h, allNodes_boundsSound_of_wellFormed h⟩

end DensityFunction

end DensityGraph
