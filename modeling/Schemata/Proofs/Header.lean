import Schemata.Proofs.Fields
import Schemata.Proofs.Template.BuiltIn
import Schemata.Proofs.Template.Render
import Schemata.Renderer

/-!
# The header of the built-in template

Which catalogs the built-in template fits, and the header that it makes of them.
-/

namespace Schemata

/-! ## Fitting catalogs -/

namespace Definition

/-- The fields of a mapping as a template sees them: of fields whose names have the same text the
last one, at the place of the first. -/
def seenFields (fields : List (String × Data)) : List (String × Data) :=
  (fields.map (·.1)).eraseDups.filterMap fun name => fields.reverse.find? (·.1 = name)

/-- An object with a type name under `type` and anything under `name`. -/
def NamesField (item : Data) : Prop :=
  ∃ entries type name, item = .object entries ∧ entries.lookup "type" = some (.string type) ∧
    entries.lookup "name" = some name

/-- Each field of a mapping is a type name, and each item of a sequence names a field. -/
def FitsHeader : Definition → Prop
  | .mapping fields => ∀ field ∈ seenFields fields, ∃ type, field.2 = .string type
  | .sequence items => ∀ item ∈ items, NamesField item
  | .scalar _ => True

end Definition

namespace Fields

/-- The entries of an object are the fields that are seen. -/
theorem ofList_eq_seenFields (fields : List (String × Data)) :
    ofList fields = Definition.seenFields fields := by
  rw [ofList_eq_putAll, Keyed.putAll_nil]
  rfl

end Fields

/-! ## The header -/

namespace Header

/-- The line of a field, without its end. -/
def fieldLine (types : TypeMap) (type name : String) : String :=
  "\n    " ++ types.resolve type ++ " " ++ name ++ ";"

/-- The text of data that is a string. -/
def textOf : Data → String
  | .string s => s
  | _ => ""

/-- The entry of a name, if there is one. -/
def entry (name : String) (d : Data) : Data := (d.child? name).getD .null

def fieldLines (types : TypeMap) : Definition → List String
  | .mapping fields =>
    (Definition.seenFields fields).map fun field => fieldLine types (textOf field.2) field.1
  | .sequence items =>
    items.map fun item => fieldLine types (textOf (entry "type" item)) (entry "name" item).text
  | .scalar _ => []

def struct (types : TypeMap) (t : TypeDefinition) : String :=
  "\nstruct " ++ t.name ++ " \x7b" ++ String.join (fieldLines types t.definition) ++ "\n\x7d;\n"

/-- The header of a catalog that comes from the files. -/
def text (types : TypeMap) (catalog : Catalog) (files : List String) : String :=
  "// Auto-generated by ac-types. Do not edit.\n" ++
  String.join (files.map fun file => "// Source: " ++ file ++ "\n") ++
  "\n#pragma once\n\n#include <cstdint>\n" ++
  String.join (catalog.entries.map (struct types))

/-! ## Its parts -/

open Template Template.Action

section
variable {types : TypeMap} {s : Site} {fs : List Frame} {l : Loop} {holds also : Prop} {d : Data}

theorem runs_fieldLine {type name : Expr} {token : String} (proceeds : signalOf fs = .proceed)
    (htype : Runs (evalExpr s type) fs holds (.string (types.resolve token)) "" fs)
    (hname : Runs (evalExpr s name) fs also d "" fs) :
    Runs (s.renderNodes (BuiltIn.fieldLine type name)) fs (holds ∧ also) ()
      (fieldLine types token d.text) fs := by
  have semicolon := runs_renderNodes_cons proceeds (runs_text_node (s := s) ";") fun _ =>
    runs_renderNodes_nil
  have named := runs_renderNodes_cons proceeds (runs_print {} hname) fun _ => semicolon
  have space := runs_renderNodes_cons proceeds (runs_text_node " ") fun _ => named
  have typed := runs_renderNodes_cons proceeds (runs_print {} htype) fun _ => space
  have line := runs_renderNodes_cons proceeds (runs_text_node "\n    ") fun _ => typed
  refine line.congr (by simp) (fun _ => rfl) fun _ => ?_
  simp only [fieldLine, Data.text, String.append_assoc, String.append_empty]

/-- The value of a variable goes through the type map if it is a string; if not, the rendering
stops. -/
theorem runs_cType {path : String} (htypes : s.env.types = types)
    (h : Runs (s.valueAt path) fs holds d "" fs) :
    Runs (evalExpr s (BuiltIn.cType path)) fs (holds ∧ ∃ type, d = .string type)
      (.string (types.resolve (textOf d))) "" fs := by
  have known : Filter.named? s.env.types "c_type" =
      some (Filter.onText "c_type" types.resolve) := by
    rw [htypes]
    rfl
  have isText : (∃ type, d = .string type) → d = .string (textOf d) := by
    rintro ⟨type, rfl⟩
    rfl
  refine runs_filtered h (by rw [evalFallback]; rfl) fun _ => runs_applyFilter rfl ?_
  exact runs_callFilter known isText fun h type eq => h ⟨type, eq⟩

/-! ### In the loop over the types -/

variable {t : TypeDefinition} {item : String × Data}

variable (fs) in
theorem lookup_t {path step : String} {d : Data} (h : l.At none "t" ("", t.data))
    (reads : ReadsAs path "t" (some step)) (steps : Path.steps step = [step])
    (known : t.data.child? step = some d) : s.env.lookup (l.frame :: fs) path = some d := by
  rw [Env.lookup_step h reads (by simp) steps, known, Option.some_or]

variable (fs) in
theorem runs_isKind (h : l.At none "t" ("", t.data)) (kind : String) :
    Runs (evalBool s (BuiltIn.isKind kind)) (l.frame :: fs) True (t.definition.kind == kind) ""
      (l.frame :: fs) := by
  have reads : ReadsAs "t.kind" "t" (some "kind") := .of_split (by decide +kernel)
  exact runs_eq (runs_variable reads (lookup_t fs h reads (by decide +kernel) rfl)) (runs_text kind)

variable (fs) in
theorem runs_fields (h : l.At none "t" ("", t.data)) :
    Runs (evalExpr s (BuiltIn.var "t.fields")) (l.frame :: fs) True t.definition.data ""
      (l.frame :: fs) := by
  have reads : ReadsAs "t.fields" "t" (some "fields") := .of_split (by decide +kernel)
  exact runs_variable reads (lookup_t fs h reads (by decide +kernel) rfl)

/-! ### In the loops over fields -/

theorem runs_entry (htypes : s.env.types = types) (h : l.At (some "field") "ty" item) :
    Runs (s.renderNodes (BuiltIn.fieldLine (BuiltIn.cType "ty") (BuiltIn.var "field")))
      (l.frame :: fs) (∃ type, item.2 = .string type) ()
      (fieldLine types (textOf item.2) item.1) (l.frame :: fs) := by
  have readsTy : ReadsAs "ty" "ty" none := .of_split (by decide +kernel)
  have readsField : ReadsAs "field" "field" none := .of_split (by decide +kernel)
  have ty : s.env.lookup (l.frame :: fs) "ty" = some item.2 := by
    rw [Env.lookup_frame, h.lookup_name readsTy (by simp)]
    rfl
  have field : s.env.lookup (l.frame :: fs) "field" = some (.string item.1) := by
    rw [Env.lookup_frame, h.lookup_key readsField (by simp)]
    rfl
  have type := runs_cType htypes
    (runs_valueAt readsTy (fun _ : True => ty) fun h => absurd trivial h)
  exact (runs_fieldLine (h.signalOf_frame fs) type (runs_variable readsField field)).congr (by simp)
    (fun _ => rfl) fun _ => rfl

theorem namesField_iff (item : Data) :
    Definition.NamesField item ↔
      ((item.child? "type").isSome ∧ ∃ type, entry "type" item = .string type) ∧
        (item.child? "name").isSome := by
  constructor
  · rintro ⟨entries, type, name, rfl, htype, hname⟩
    simp [entry, Data.child?, htype, hname]
  · rintro ⟨⟨htype, type, isType⟩, hname⟩
    obtain ⟨d, hd⟩ := Option.isSome_iff_exists.mp htype
    obtain ⟨name, hname⟩ := Option.isSome_iff_exists.mp hname
    cases item with
    | object entries =>
      rw [entry, hd] at isType
      exact ⟨entries, type, name, rfl, isType ▸ hd, hname⟩
    | _ => cases hd

theorem runs_item {item : Data} (htypes : s.env.types = types)
    (h : l.At none "field" ("", item))
    (outside : ∀ path rest, ReadsAs path "field" rest → s.env.lookup fs path = none) :
    Runs (s.renderNodes (BuiltIn.fieldLine (BuiltIn.cType "field.type")
        (BuiltIn.var "field.name"))) (l.frame :: fs) (Definition.NamesField item) ()
      (fieldLine types (textOf (entry "type" item)) (entry "name" item).text)
      (l.frame :: fs) := by
  have readsType : ReadsAs "field.type" "field" (some "type") := .of_split (by decide +kernel)
  have readsName : ReadsAs "field.name" "field" (some "name") := .of_split (by decide +kernel)
  -- for an entry that the item does not have the outer frames are asked, in vain
  have found {path step : String} (reads : ReadsAs path "field" (some step))
      (steps : Path.steps step = [step]) :
      s.env.lookup (l.frame :: fs) path = item.child? step := by
    rw [Env.lookup_step h reads (by simp) steps, outside path _ reads, Option.or_none]
  have value {path step : String} (reads : ReadsAs path "field" (some step))
      (steps : Path.steps step = [step]) :
      Runs (s.valueAt path) (l.frame :: fs) (item.child? step).isSome (entry step item) ""
        (l.frame :: fs) := by
    refine runs_valueAt reads (fun there => ?_) fun missing => ?_
    · obtain ⟨d, hd⟩ := Option.isSome_iff_exists.mp there
      rw [found reads steps, entry, hd, Option.getD_some]
    · rw [found reads steps, Option.not_isSome_iff_eq_none.mp missing]
  have type := runs_cType htypes (value readsType (by decide +kernel))
  have name := runs_path (value readsName (by decide +kernel))
  exact (runs_fieldLine (h.signalOf_frame fs) type name).congr (namesField_iff item).symm
    (fun _ => rfl) fun _ => rfl

/-! ### The parts put together -/

variable (fs) in
theorem runs_mapping (htypes : s.env.types = types) (h : l.At none "t" ("", t.data))
    {fields : List (String × Data)} (shape : t.definition = .mapping fields) :
    Runs (s.renderNode (BuiltIn.fieldsLoop (some "field") "ty" (BuiltIn.cType "ty")
        (BuiltIn.var "field"))) (l.frame :: fs) t.definition.FitsHeader ()
      (String.join (fieldLines types t.definition)) (l.frame :: fs) := by
  have fieldsOf := runs_fields (s := s) fs h
  rw [shape] at fieldsOf ⊢
  refine runs_loop_node (f := id) (Definition.seenFields fields) rfl fieldsOf ?_
    fun l' field at' => runs_entry htypes at'
  rw [Definition.data, Fields.ofList_eq_seenFields, List.map_id]
  rfl

theorem runs_sequence (htypes : s.env.types = types) (h : l.At none "t" ("", t.data))
    {items : List Data} (shape : t.definition = .sequence items)
    (outside : ∀ path rest, ReadsAs path "field" rest → s.env.lookup (l.frame :: fs) path = none) :
    Runs (s.renderNode (BuiltIn.fieldsLoop none "field" (BuiltIn.cType "field.type")
        (BuiltIn.var "field.name"))) (l.frame :: fs) t.definition.FitsHeader ()
      (String.join (fieldLines types t.definition)) (l.frame :: fs) := by
  have fieldsOf := runs_fields (s := s) fs h
  rw [shape, Definition.data, ← List.map_id items] at fieldsOf
  rw [shape]
  exact runs_list_loop items rfl fieldsOf fun l' item at' => runs_item htypes at' outside

/-- Nothing is written for a scalar. -/
theorem runs_kinds (htypes : s.env.types = types) (h : l.At none "t" ("", t.data))
    (outside : ∀ path rest, ReadsAs path "field" rest → s.env.lookup (l.frame :: fs) path = none) :
    Runs (s.renderNode BuiltIn.kinds) (l.frame :: fs) t.definition.FitsHeader ()
      (String.join (fieldLines types t.definition)) (l.frame :: fs) := by
  have isMapping := runs_isKind (s := s) fs h "mapping"
  have isSequence := runs_isKind (s := s) fs h "sequence"
  rw [BuiltIn.kinds, Site.renderNode]
  cases shape : t.definition with
  | mapping fields =>
    have ran := runs_mapping fs htypes h shape
    rw [shape] at isMapping ran
    exact runs_branch_true isMapping (runs_renderNodes_one (h.signalOf_frame fs) ran)
  | sequence items =>
    have ran := runs_sequence htypes h shape outside
    rw [shape] at isMapping isSequence ran
    exact runs_branch_false isMapping
      (runs_branch_true isSequence (runs_renderNodes_one (h.signalOf_frame fs) ran))
  | scalar value =>
    rw [shape] at isMapping isSequence
    exact runs_branch_false isMapping (runs_branch_false isSequence runs_branches_nil)

theorem runs_struct (htypes : s.env.types = types) (h : l.At none "t" ("", t.data))
    (outside : ∀ path rest, ReadsAs path "field" rest → s.env.lookup (l.frame :: fs) path = none) :
    Runs (s.renderNodes [.text "\nstruct ", BuiltIn.print (BuiltIn.var "t.name"), .text " \x7b",
        BuiltIn.kinds, .text "\n\x7d;\n"]) (l.frame :: fs) t.definition.FitsHeader ()
      (struct types t) (l.frame :: fs) := by
  have proceeds := h.signalOf_frame fs
  have reads : ReadsAs "t.name" "t" (some "name") := .of_split (by decide +kernel)
  have name := runs_variable (s := s) reads (lookup_t fs h reads (by decide +kernel) rfl)
  have closed := runs_renderNodes_one (s := s) proceeds (runs_text_node "\n\x7d;\n")
  have fields := runs_renderNodes_cons proceeds (runs_kinds htypes h outside) fun _ => closed
  have opened := runs_renderNodes_cons proceeds (runs_text_node " \x7b") fun _ => fields
  have named := runs_renderNodes_cons proceeds (runs_print {} name) fun _ => opened
  have ran := runs_renderNodes_cons proceeds (runs_text_node "\nstruct ") fun _ => named
  refine ran.congr (by simp) (fun _ => rfl) fun _ => ?_
  simp only [struct, Data.text, String.append_assoc]

end

/-! ## The whole -/

section
variable {catalog : Catalog} {files : List String} {types : TypeMap} {s : Site}

theorem lookup_context (context : s.env.context = Renderer.context catalog files)
    {path name : String} {rest : Option String} (reads : ReadsAs path name rest) :
    s.env.lookup [{}] path =
      ((Renderer.context catalog files).get? name).bind fun d =>
        rest.elim (some d) (Data.at? · d) := by
  rw [Env.lookup_root, partBy, reads.split, context]
  cases rest <;> simp

theorem runs_filesLoop (context : s.env.context = Renderer.context catalog files) :
    Runs (s.renderNode BuiltIn.filesLoop) [{}] True ()
      (String.join (files.map fun file => "// Source: " ++ file ++ "\n")) [{}] := by
  have readsFiles : ReadsAs "files" "files" none := .of_split (by decide +kernel)
  have readsFile : ReadsAs "file" "file" none := .of_split (by decide +kernel)
  have value := runs_variable (s := s) readsFiles (lookup_context context readsFiles)
  have line (l : Loop) (file : String) (h : l.At none "file" ("", .string file)) :
      Runs (s.renderNodes [.text "// Source: ", BuiltIn.print (BuiltIn.var "file"), .text "\n"])
        (l.frame :: [{}]) True () ("// Source: " ++ file ++ "\n") (l.frame :: [{}]) := by
    have proceeds := h.signalOf_frame [{}]
    have found : s.env.lookup (l.frame :: [{}]) "file" = some (.string file) := by
      rw [Env.lookup_frame, h.lookup_name readsFile (by simp)]
      rfl
    have ended := runs_renderNodes_one (s := s) proceeds (runs_text_node "\n")
    have printed := runs_renderNodes_cons proceeds
      (runs_print {} (runs_variable readsFile found)) fun _ => ended
    have ran := runs_renderNodes_cons proceeds (runs_text_node "// Source: ") fun _ => printed
    refine ran.congr (by simp) (fun _ => rfl) fun _ => ?_
    rw [Data.text, String.append_assoc]
  exact (runs_list_loop files rfl value line).congr (by simp) (fun _ => rfl) fun _ => rfl

theorem runs_typesLoop (htypes : s.env.types = types)
    (context : s.env.context = Renderer.context catalog files) :
    Runs (s.renderNode BuiltIn.typesLoop) [{}] (∀ t ∈ catalog.entries, t.definition.FitsHeader) ()
      (String.join (catalog.entries.map (struct types))) [{}] := by
  have reads : ReadsAs "types" "types" none := .of_split (by decide +kernel)
  have value := runs_variable (s := s) reads (lookup_context context reads)
  refine runs_list_loop catalog.entries rfl value fun l t h => runs_struct htypes h ?_
  -- neither the loop over the types nor the context knows a `field`
  intro path rest readsField
  rw [Env.lookup_frame, h.lookup_of_ne readsField (by simp) (by decide), Option.none_or,
    lookup_context context readsField]
  rfl

theorem runs_builtIn (htypes : s.env.types = types)
    (context : s.env.context = Renderer.context catalog files) :
    Runs (s.renderNodes BuiltIn.nodes) [{}] (∀ t ∈ catalog.entries, t.definition.FitsHeader) ()
      (text types catalog files) [{}] := by
  have root : signalOf [{}] = .proceed := rfl
  have structs := runs_renderNodes_one root (runs_typesLoop htypes context)
  have opening := runs_renderNodes_cons root
    (runs_text_node "\n#pragma once\n\n#include <cstdint>\n") fun _ => structs
  have sources := runs_renderNodes_cons root (runs_filesLoop context) fun _ => opening
  have ran := runs_renderNodes_cons root
    (runs_text_node "// Auto-generated by ac-types. Do not edit.\n") fun _ => sources
  unfold BuiltIn.nodes
  refine ran.congr (by simp) (fun _ => rfl) fun _ => ?_
  unfold text
  simp only [String.append_assoc]

end

end Header

namespace Renderer

open Template Template.Action

theorem ofText_of_compile {name text : String} {template : Template} (types : TypeMap)
    (h : compile name text = .ok template) : ofText name text types = .ok { template, types } := by
  rw [ofText, h]
  rfl

theorem ofSource_builtIn (disk : Disk) (types : TypeMap) :
    ofSource disk .builtIn types = .ok { template := Template.builtIn, types } := by
  have read : TemplateSource.builtIn.read disk = pure builtInText := rfl
  rw [ofSource, read, pure_bind]
  exact ofText_of_compile types compile_builtIn

/-- The built-in template renders the catalogs that fit it, and no others. What it makes of them is
their header; otherwise the template does not match the schema. -/
theorem render_builtIn (disk : Disk) (types : TypeMap) (catalog : Catalog) (files : List String) :
    ∃ renderer, ofSource disk .builtIn types = .ok renderer ∧
      ((∃ text, renderer.render catalog files = .ok text) ↔
        ∀ t ∈ catalog.entries, t.definition.FitsHeader) ∧
      (∀ text, renderer.render catalog files = .ok text →
        text = Header.text types catalog files) ∧
      ∀ error, renderer.render catalog files = .error error →
        ∃ failure, error = .mismatch builtInName failure := by
  let renderer : Renderer := { template := Template.builtIn, types }
  let env : Env := { template := Template.builtIn, context := context catalog files, types }
  have ran : Runs ((env.site Env.maxDepth).renderNodes env.template.nodes) [{}]
      (∀ t ∈ catalog.entries, t.definition.FitsHeader) () (Header.text types catalog files) [{}] :=
    Header.runs_builtIn (congrArg Env.types (Env.env_site env _))
      (congrArg Env.context (Env.env_site env _))
  have render_eq : renderer.render catalog files =
      env.render.mapError (.mismatch builtInName) := rfl
  refine ⟨renderer, ofSource_builtIn disk types, ?_⟩
  by_cases fits : ∀ t ∈ catalog.entries, t.definition.FitsHeader
  · have rendered : renderer.render catalog files = .ok (Header.text types catalog files) := by
      rw [render_eq, Env.render_of_runs ran fits]
      rfl
    rw [rendered]
    refine ⟨⟨fun _ => fits, fun _ => ⟨_, rfl⟩⟩, ?_, ?_⟩
    · rintro text ⟨⟩
      rfl
    · rintro error ⟨⟩
  · obtain ⟨failure, failed⟩ := Env.render_of_not_runs ran fits
    have rendered : renderer.render catalog files =
        .error (.mismatch builtInName failure) := by
      rw [render_eq, failed]
      rfl
    rw [rendered]
    refine ⟨⟨?_, fun h => absurd h fits⟩, ?_, ?_⟩
    · rintro ⟨text, ⟨⟩⟩
    · rintro text ⟨⟩
    · rintro error ⟨⟩
      exact ⟨failure, rfl⟩

end Renderer

end Schemata
