import NorFlash.Text.Portion
import NorFlash.Yaml.Builder
import NorFlash.Yaml.Node.Reader

/-!
# Documents

`Document.read` answers the document that the content of a file describes. The file is read in
portions, each of them once the text before it is used up, so that a fault of that text is found
before bytes in a later portion that are no text.
-/

namespace NorFlash.Yaml

namespace NodeGraph

/-- The nodes that a text describes; `complete` tells whether the text ends there. -/
def ofText (complete : Bool) (cs : List Char) : Except Halt NodeGraph :=
  match Source.ofText? cs with
  | none => .error .malformed
  | some source => do
    let scanned ← Token.scan complete source
    ofTokens complete scanned

end NodeGraph

namespace Document

/-- The document that the content of a file describes. -/
def read (content : ByteArray) : Except Fault Document :=
  let text := Portion.read content
  match text.fault with
  | none =>
    match NodeGraph.ofText true text.chars with
    | .ok graph => ofGraph graph
    | .error _ => .error .malformed
  | some fault =>
    match NodeGraph.ofText false text.chars with
    | .error .malformed => .error .malformed
    | _ => .error (.encoding fault)

end Document

end NorFlash.Yaml
