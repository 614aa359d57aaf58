import Schemata.Template.Filter.Lists
import Schemata.Template.Filter.Strings
import Schemata.Template.Filter.Values

/-!
# The filters of templates
-/

namespace Schemata.Template.Filter

/-- The filter of a name, for a type map. -/
def named? (types : TypeMap) (name : String) : Option Filter :=
  (identifiers types ++ strings ++ lists ++ values).lookup name

end Schemata.Template.Filter
