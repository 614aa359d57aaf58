import Schemata.Proofs.Template.Same
import Schemata.Template.BuiltIn

/-!
# The built-in template, read

`builtIn` is what the text of the built-in template says, with the white space trimmed that its tags
ask for (`compile_builtIn`).
-/

namespace Schemata.Template

namespace BuiltIn

def var (path : String) : Expr := .ofTerm (.path path)

/-- A variable through the type map. -/
def cType (path : String) : Expr := .mk (.path path) false [.mk "c_type" []]

/-- Whether `t` is of a kind. -/
def isKind (kind : String) : Expr :=
  .ofTerm (.relation .eq (var "t.kind") (.ofTerm (.text kind)))

def print (e : Expr) : Node := .tag {} (.print e)

/-- The loop over the files, one line for each. -/
def filesLoop : Node :=
  .body { after := true } {} (.loop none "file" (var "files"))
    [.text "// Source: ", print (var "file"), .text "\n"] none

/-- What is written for a field, given how its type and its name are found. -/
def fieldLine (type name : Expr) : List Node :=
  [.text "\n    ", print type, .text " ", print name, .text ";"]

/-- A loop over the fields of `t`. -/
def fieldsLoop (key : Option String) (value : String) (type name : Expr) : Node :=
  .body { before := true } { before := true } (.loop key value (var "t.fields"))
    (fieldLine type name) none

def kinds : Node :=
  .cond
    [({ before := true }, isKind "mapping",
        [fieldsLoop (some "field") "ty" (cType "ty") (var "field")]),
      ({ before := true }, isKind "sequence",
        [fieldsLoop none "field" (cType "field.type") (var "field.name")])]
    none { before := true }

/-- The loop over the types, one struct for each. -/
def typesLoop : Node :=
  .body {} { after := true } (.loop none "t" (var "types"))
    [.text "\nstruct ", print (var "t.name"), .text " \x7b", kinds, .text "\n\x7d;\n"] none

def nodes : List Node :=
  [.text "// Auto-generated by ac-types. Do not edit.\n", filesLoop,
    .text "\n#pragma once\n\n#include <cstdint>\n", typesLoop]

end BuiltIn

def builtIn : Template where
  name := builtInName
  nodes := BuiltIn.nodes
  blocks := []
  macros := []
  imports := []

/-! ## Reading the text -/

/-- The characters of the built-in template, line by line: the kernel reads each literal by itself
much faster than their concatenation. -/
def builtInChars : List Char :=
  "// Auto-generated by ac-types. Do not edit.\n".toList ++
  "\x7b% for file in files -%\x7d\n".toList ++
  "// Source: \x7b\x7b file \x7d\x7d\n".toList ++
  "\x7b% endfor %\x7d\n".toList ++
  "#pragma once\n".toList ++
  "\n".toList ++
  "#include <cstdint>\n".toList ++
  "\x7b% for t in types %\x7d\n".toList ++
  "struct \x7b\x7b t.name \x7d\x7d \x7b\n".toList ++
  "\x7b%- if t.kind == \"mapping\" %\x7d\n".toList ++
  "\x7b%- for field, ty in t.fields %\x7d\n".toList ++
  "    \x7b\x7b ty | c_type \x7d\x7d \x7b\x7b field \x7d\x7d;\n".toList ++
  "\x7b%- endfor %\x7d\n".toList ++
  "\x7b%- elif t.kind == \"sequence\" %\x7d\n".toList ++
  "\x7b%- for field in t.fields %\x7d\n".toList ++
  "    \x7b\x7b field.type | c_type \x7d\x7d \x7b\x7b field.name \x7d\x7d;\n".toList ++
  "\x7b%- endfor %\x7d\n".toList ++
  "\x7b%- endif %\x7d\n".toList ++
  "\x7d;\n".toList ++
  "\x7b% endfor -%\x7d\n".toList

theorem toList_builtInText : builtInText.toList = builtInChars := by
  unfold builtInText builtInChars
  repeat rw [String.toList_append]

set_option maxRecDepth 20000 in
/-- Checked by evaluation. The text is a variable here, so that its characters are not looked for in
the concatenation again. -/
theorem same_compile {text : String} (h : text.toList = builtInChars) :
    (compile builtInName text).toOption.any (same · builtIn) = true := by
  unfold compile
  rw [h]
  decide +kernel

theorem compile_builtIn : compile builtInName builtInText = .ok builtIn := by
  have checked := same_compile toList_builtInText
  cases h : compile builtInName builtInText with
  | error _ =>
    rw [h] at checked
    exact absurd checked Bool.false_ne_true
  | ok t =>
    rw [h] at checked
    rw [eq_of_same checked]

end Schemata.Template
