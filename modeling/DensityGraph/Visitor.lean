import DensityGraph.Function

/-!
# The rewrite visitor

`apply(visitor)` rewrites a graph bottom-up: every node first rewrites its children, then
hands the rebuilt node to `visitor.apply`. The five kinds of `density/mod.rs` do this in their
own `apply`; the other kinds follow the spec's default (§4.1), passing their noises through
`apply_internal_noise` as well.

`UnwrapVisitor` strips each `Wrapper` to its input. Because a wrapper samples and bounds as its
input does, a visitor that keeps every single node's samples and bounds keeps the whole
graph's (`sample_apply_of_transparent`), so unwrapping never changes the field; and because the
traversal reaches every depth before the node itself, unwrapping leaves no wrapper behind and
is idempotent.
-/

namespace DensityGraph

/-- `VisitorImpl`: the node rewrite `apply` and the noise rewrite `apply_internal_noise`. -/
structure Visitor where
  apply : DensityFunction → DensityFunction
  applyInternalNoise : InternalNoise → InternalNoise

namespace DensityFunction

/-- `DensityFunctionImpl::apply`: rewrite the children, then the node itself. -/
def apply : DensityFunction → Visitor → DensityFunction
  | clampFunction input min max, visitor =>
    visitor.apply (clampFunction (input.apply visitor) min max)
  | unary unaryType input, visitor => visitor.apply (unary unaryType (input.apply visitor))
  | noise noiseRef xzScale yScale, visitor =>
    visitor.apply (noise (visitor.applyInternalNoise noiseRef) xzScale yScale)
  | shiftA offsetNoise, visitor => visitor.apply (shiftA (visitor.applyInternalNoise offsetNoise))
  | shiftB offsetNoise, visitor => visitor.apply (shiftB (visitor.applyInternalNoise offsetNoise))
  | shiftedNoise shiftX shiftY shiftZ xzScale yScale noiseRef, visitor =>
    visitor.apply (shiftedNoise (shiftX.apply visitor) (shiftY.apply visitor)
      (shiftZ.apply visitor) xzScale yScale (visitor.applyInternalNoise noiseRef))
  | spline n locations s, visitor =>
    visitor.apply (spline n (fun i => (locations i).apply visitor) s)
  | constant value, visitor => visitor.apply (constant value)
  | linear slope offset input, visitor =>
    visitor.apply (linear slope offset (input.apply visitor))
  | binary action argument1 argument2, visitor =>
    visitor.apply (binary action (argument1.apply visitor) (argument2.apply visitor))
  | blendOffset, visitor => visitor.apply blendOffset
  | blendAlpha, visitor => visitor.apply blendAlpha
  | blendDensity input, visitor => visitor.apply (blendDensity (input.apply visitor))
  | clampedY fromY toY fromVal toVal, visitor => visitor.apply (clampedY fromY toY fromVal toVal)
  | interpolatedNoise sampler, visitor => visitor.apply (interpolatedNoise sampler)
  | endIsland function, visitor => visitor.apply (endIsland function)
  | wierd input noiseRef rarityMapper, visitor =>
    visitor.apply (wierd (input.apply visitor) (visitor.applyInternalNoise noiseRef) rarityMapper)
  | range input min max inRange outRange, visitor =>
    visitor.apply (range (input.apply visitor) min max (inRange.apply visitor)
      (outRange.apply visitor))
  | wrapper input kind, visitor => visitor.apply (wrapper (input.apply visitor) kind)
  | beardifyer, visitor => visitor.apply beardifyer

end DensityFunction

open DensityFunction

/-! ## Transparent visitors keep the field -/

/-- A visitor is transparent when its rewrite of a single node keeps that node's samples and
bounds, and it leaves noises alone. -/
structure Visitor.Transparent (visitor : Visitor) : Prop where
  sample_apply : ∀ function pos, (visitor.apply function).sample pos = function.sample pos
  min_apply : ∀ function, (visitor.apply function).min = function.min
  max_apply : ∀ function, (visitor.apply function).max = function.max
  applyInternalNoise_eq : ∀ noise, visitor.applyInternalNoise noise = noise

variable {visitor : Visitor}

/-- **A transparent visitor keeps the sampled field**: the bottom-up rewrite of any tree samples
as the tree does, at every position. -/
theorem sample_apply_of_transparent (hv : visitor.Transparent) (function : DensityFunction)
    (pos : NoisePos) : (function.apply visitor).sample pos = function.sample pos := by
  induction function <;>
    simp only [apply, hv.sample_apply, sample, hv.applyInternalNoise_eq, *]

/-- A transparent visitor keeps the static bounds of any tree. -/
theorem bounds_apply_of_transparent (hv : visitor.Transparent) (function : DensityFunction) :
    (function.apply visitor).min = function.min ∧
      (function.apply visitor).max = function.max := by
  induction function <;>
    simp only [apply, hv.min_apply, hv.max_apply, DensityFunction.min, DensityFunction.max,
      hv.applyInternalNoise_eq, true_and, and_true, *]

/-! ## Unwrapping -/

/-- `UnwrapVisitor`: a `Wrapper` becomes its input; every other node is kept. Its noise rewrite
is the trait's default, the identity. -/
def unwrapVisitor : Visitor where
  apply function :=
    match function with
    | wrapper input _ => input
    | function => function
  applyInternalNoise noise := noise

theorem unwrapVisitor_transparent : unwrapVisitor.Transparent where
  sample_apply function pos := by cases function <;> rfl
  min_apply function := by cases function <;> rfl
  max_apply function := by cases function <;> rfl
  applyInternalNoise_eq _ := rfl

/-- **Unwrapping preserves meaning**: stripping every caching and interpolation annotation
from any tree keeps its density at every position and its static bounds. -/
theorem sample_apply_unwrapVisitor (function : DensityFunction) :
    (∀ pos, (function.apply unwrapVisitor).sample pos = function.sample pos) ∧
      (function.apply unwrapVisitor).min = function.min ∧
      (function.apply unwrapVisitor).max = function.max :=
  ⟨sample_apply_of_transparent unwrapVisitor_transparent function,
    bounds_apply_of_transparent unwrapVisitor_transparent function⟩

namespace DensityFunction

/-- No `Wrapper` node occurs at any depth. -/
def WrapperFree (function : DensityFunction) : Prop := function.AllNodes NotWrapper

end DensityFunction

/-- Unwrapping reaches every depth: no wrapper is left. -/
theorem wrapperFree_apply_unwrapVisitor (function : DensityFunction) :
    (function.apply unwrapVisitor).WrapperFree := by
  induction function <;>
    simp_all only [apply, unwrapVisitor, WrapperFree, AllNodes, NotWrapper, ne_eq, reduceCtorEq,
      not_false_eq_true, implies_true, and_self]

/-- A wrapper-free tree is a fixed point of unwrapping. -/
theorem apply_unwrapVisitor_of_wrapperFree {function : DensityFunction}
    (h : function.WrapperFree) : function.apply unwrapVisitor = function := by
  induction function <;>
    simp_all only [apply, unwrapVisitor, WrapperFree, AllNodes, NotWrapper, ne_eq, reduceCtorEq,
      not_false_eq_true, implies_true, and_self, true_and, and_true, forall_const]
  -- a wrapper node is not wrapper-free
  exact absurd rfl (h.1 _ _)

/-- **Unwrapping is complete and idempotent**: its result has no wrapper at any depth, every
wrapper-free tree is left as it is, so unwrapping twice is unwrapping once. -/
theorem unwrap_complete_idempotent (function : DensityFunction) :
    (function.apply unwrapVisitor).WrapperFree ∧
      (∀ tree : DensityFunction, tree.WrapperFree → tree.apply unwrapVisitor = tree) ∧
      (function.apply unwrapVisitor).apply unwrapVisitor = function.apply unwrapVisitor :=
  ⟨wrapperFree_apply_unwrapVisitor function, fun _ => apply_unwrapVisitor_of_wrapperFree,
    apply_unwrapVisitor_of_wrapperFree (wrapperFree_apply_unwrapVisitor function)⟩

end DensityGraph
