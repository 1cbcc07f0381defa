import DensityGraph.Basic
import DensityGraph.Function
import DensityGraph.Construct
import DensityGraph.Bounds
import DensityGraph.Fill
import DensityGraph.Visitor
import DensityGraph.BuiltIn
import DensityGraph.Column
import DensityGraph.BuiltInBounds
import DensityGraph.Terrain
import DensityGraph.Caves
