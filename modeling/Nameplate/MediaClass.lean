import Nameplate.Text.Pieces

/-!
Media classes such as `Audio/Sink` or `Stream/Output/Audio`.

A media class is a path.  Only its components decide whether a node is a sink
or a source, so slashes at the ends, doubled slashes and the order of the
components make no difference, and a longer word such as `SinkInput` is a word
of its own.
-/

namespace Nameplate

/-- A media class, held as the text that was observed. -/
structure MediaClass where
  text : String
deriving DecidableEq, Repr

namespace MediaClass

/-- The nonempty parts between slashes, in order. -/
def components (mediaClass : MediaClass) : List String :=
  ((Text.pieces '/' mediaClass.text.toList).filter fun piece => !piece.isEmpty).map
    String.ofList

def isSink (mediaClass : MediaClass) : Bool :=
  mediaClass.components.any fun word => word = "Sink" || word = "Duplex"

def isSource (mediaClass : MediaClass) : Bool :=
  mediaClass.components.any fun word => word = "Source" || word = "Duplex"

/-- Whether the node is an end of the graph, as opposed to an application's
stream. -/
def isEndpoint (mediaClass : MediaClass) : Bool :=
  mediaClass.isSink || mediaClass.isSource

end MediaClass

end Nameplate
