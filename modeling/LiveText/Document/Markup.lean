import LiveText.Document.Graft
import LiveText.Markup.Reader

/-!
# Documents from markup

## Main definitions

- `Document.appendMarkup`: markup read and copied below a node.
- `Document.parse`: a document that holds the content of a text of markup.
-/

namespace LiveText.Document

/-- Reads markup and puts it after the children of a node; the answer tells the new children. -/
def appendMarkup (d : Document) (parent : NodeId) (source : String) : List NodeId × Document :=
  d.appendForest parent (Markup.parse source)

/-- The document of a text of markup. -/
def parse (source : String) : Document :=
  (empty.appendMarkup root source).2

end LiveText.Document
