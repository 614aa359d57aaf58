import Schemata.Template

/-!
# The built-in template

Used when no other template is given: a C++ header with a struct for each type.
-/

namespace Schemata.Template

/-- The name of the built-in template, and of a template installed in its stead. -/
def builtInName : String := "ac_types.h.tera"

/-- The directory of the installed template, beside the program. -/
def installedDirectory : String := "templates"

/-- The text of the built-in template. -/
def builtInText : String :=
  "// Auto-generated by ac-types. Do not edit.\n" ++
  "\x7b% for file in files -%\x7d\n" ++
  "// Source: \x7b\x7b file \x7d\x7d\n" ++
  "\x7b% endfor %\x7d\n" ++
  "#pragma once\n" ++
  "\n" ++
  "#include <cstdint>\n" ++
  "\x7b% for t in types %\x7d\n" ++
  "struct \x7b\x7b t.name \x7d\x7d \x7b\n" ++
  "\x7b%- if t.kind == \"mapping\" %\x7d\n" ++
  "\x7b%- for field, ty in t.fields %\x7d\n" ++
  "    \x7b\x7b ty | c_type \x7d\x7d \x7b\x7b field \x7d\x7d;\n" ++
  "\x7b%- endfor %\x7d\n" ++
  "\x7b%- elif t.kind == \"sequence\" %\x7d\n" ++
  "\x7b%- for field in t.fields %\x7d\n" ++
  "    \x7b\x7b field.type | c_type \x7d\x7d \x7b\x7b field.name \x7d\x7d;\n" ++
  "\x7b%- endfor %\x7d\n" ++
  "\x7b%- endif %\x7d\n" ++
  "\x7d;\n" ++
  "\x7b% endfor -%\x7d\n"

end Schemata.Template
