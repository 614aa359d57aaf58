import Schemata.Text.Pattern.Match
import Schemata.Text.Pattern.Meaning
import Schemata.Text.Pattern.Reader
import Schemata.Text.Pattern.Size

/-!
# Reading of patterns

`Pattern.read` makes a pattern of a text, or tells why it cannot.
-/

namespace Schemata.Text.Pattern

/-- Why a text is no pattern that is matched. -/
inductive Refusal where
  | fault (fault : Fault)
  | tooBig
deriving Repr

/-- The message for a text that was refused. -/
def Refusal.message (text : String) : Refusal → String
  | .fault f => f.message text
  | .tooBig => s!"Compiled regex exceeds size limit of {maxSize} bytes."

def read (text : String) : Except Refusal Pattern := do
  let tree ← (Tree.read text).mapError .fault
  let (p, _) ← (tree.meaning {}).mapError .fault
  if p.isTooBig then throw .tooBig
  return p

end Schemata.Text.Pattern
