import Workflow.Graph.Basic
import Workflow.Node.Codec

/-!
# Graphs as JSON

A graph is written as its two lists and read as it is, without a check, so that a damaged
one can be looked at and mended.
-/

namespace Workflow

open Json

/-- Reads a graph. -/
def Graph.decoder : Decoder Graph :=
  Record.read "struct GraphParts"
    (Graph.ofLists <$> Record.optional "nodes" (Decoder.list Node.decoder) []
      <*> Record.optional "edges" (Decoder.list Edge.decoder) [])

/-- Writes a graph. -/
def Graph.toValue (g : Graph) : Value :=
  .obj [("nodes", .arr (g.nodes.map Node.toValue)), ("edges", .arr (g.edges.map Edge.toValue))]

end Workflow
