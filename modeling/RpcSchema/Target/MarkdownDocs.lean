import RpcSchema.Generate.Backend
import RpcSchema.Target.MarkdownPage

/-!
Markdown documentation of the types and methods of a schema.
-/

namespace RpcSchema

open MarkdownPage Naming

/-- How the documentation is split into files. -/
inductive DocsLayout
  /-- A file for each type and method, and indexes. -/
  | perFile
  /-- One page of types and one of methods. -/
  | singlePage
deriving DecidableEq

structure MarkdownDocs where
  layout : DocsLayout := .perFile
  includePrivate : Bool := false

namespace MarkdownDocs

/-- The types that are documented. -/
def types (config : MarkdownDocs) (schema : Schema) : List TypeDecl :=
  (schema.types.map (·.2)).filter fun type => config.includePrivate || !type.isPrivate

def isVisible (config : MarkdownDocs) (method : Method) : Bool :=
  config.includePrivate || !method.isPrivate

/-- The methods that are documented. -/
def methods (config : MarkdownDocs) (schema : Schema) : List Method :=
  schema.methods.filter config.isVisible

/-- The groups that have visible methods, with those. -/
def groupedMethods (config : MarkdownDocs) (schema : Schema) : List (Group × List Method) :=
  (schema.groups.map fun group =>
      (group, (schema.methodsIn group.name).filter config.isVisible)).filter
    fun entry => !entry.2.isEmpty

/-- The visible methods of no declared group. -/
def ungroupedMethods (config : MarkdownDocs) (schema : Schema) : List Method :=
  (config.methods schema).filter fun method => (schema.groupNamed? method.group).isNone

/-- Sentence, fields and examples of a type. -/
def typeBody (links : TypeLinks) (level : Nat) (type : TypeDecl) : List Element :=
  (if type.description.isEmpty then []
    else paragraph ("The `" ++ docName type.name ++ "` " ++ type.description)) ++
    (if type.properties.isEmpty then [] else fieldTable links type.properties) ++
    typeExamples level type.examples

/-- Sentence, inputs, outputs and examples of a method. -/
def methodBody (links : TypeLinks) (level : Nat) (method : Method) : List Element :=
  (if method.description.isEmpty then []
    else paragraph ("The `" ++ method.name ++ "` method " ++ method.description)) ++
    (if method.hasInputs then
      [.line "Inputs:", .blank] ++ fieldTable links method.inputs else []) ++
    (if method.hasOutputs then
      [.line "Outputs:", .blank] ++ fieldTable links method.outputs else []) ++
    methodExamples level method.examples

/-! ## A file for each -/

def typeIndex (types : List TypeDecl) : List Element :=
  heading 1 "Types" ++ types.map fun type =>
    let name := docName type.name
    .item ⟨name, "./" ++ name ++ ".md"⟩ type.description

def typePage (type : TypeDecl) : List Element :=
  heading 1 (docName type.name) ++ typeBody .files 2 type

def methodIndex (groups : List (Group × List Method)) : List Element :=
  heading 1 "Methods" ++ groups.flatMap fun (group, methods) =>
    heading 2 (capitalize group.name) ++ paragraph group.description ++
      (methods.map fun method =>
        .item ⟨method.name, "./" ++ method.name ++ ".md"⟩ method.description) ++ [.blank]

def methodPage (method : Method) : List Element :=
  heading 1 method.name ++ methodBody .files 2 method

/-- The pages by path. -/
def perFile (config : MarkdownDocs) (schema : Schema) : List (String × List Element) :=
  [("types/index.md", typeIndex (config.types schema))] ++
    ((config.types schema).map fun type =>
      ("types/" ++ docName type.name ++ ".md", typePage type)) ++
    [("methods/index.md", methodIndex (config.groupedMethods schema))] ++
    (config.methods schema).map fun method =>
      ("methods/" ++ method.name ++ ".md", methodPage method)

/-! ## Single pages -/

def typeSection (type : TypeDecl) : List Element :=
  let name := docName type.name
  .anchor (anchorName name) :: heading 2 name ++ typeBody .anchors 3 type

/-- The anchor of a method in a section. -/
def methodAnchor (section_ : String) (method : Method) : String :=
  section_ ++ "." ++ anchorName method.name

/-- A section with a table of methods and the documentation of each. -/
def methodSection (title description : String) (methods : List Method) : List Element :=
  let id := anchorName title
  .anchor id :: heading 2 (capitalize title) ++ paragraph description ++
    [.tableHead ["Method", "Description"]] ++
    (methods.map fun method =>
      .methodRow ⟨method.name, "#" ++ methodAnchor id method⟩ (capitalize method.description)) ++
    [.blank] ++
    methods.flatMap fun method =>
      .anchor (methodAnchor id method) :: heading 3 method.name ++ methodBody .anchors 4 method

def singleTypesPage (config : MarkdownDocs) (schema : Schema) : List Element :=
  frontMatter "Types" "types" ("Type documentation for the " ++ schema.name ++ " API.") ++
    (config.types schema).flatMap typeSection

def singleMethodsPage (config : MarkdownDocs) (schema : Schema) : List Element :=
  let others := config.ungroupedMethods schema
  frontMatter "Methods" "methods" ("Method documentation for the " ++ schema.name ++ " API.") ++
    ((config.groupedMethods schema).flatMap fun (group, methods) =>
      methodSection group.name group.description methods) ++
    if others.isEmpty then [] else methodSection "other" "" others

/-- The pages by path. -/
def singlePage (config : MarkdownDocs) (schema : Schema) : List (String × List Element) :=
  [("types.md", config.singleTypesPage schema), ("methods.md", config.singleMethodsPage schema)]

def pages (config : MarkdownDocs) (schema : Schema) : List (String × List Element) :=
  match config.layout with
  | .perFile => config.perFile schema
  | .singlePage => config.singlePage schema

def emit (config : MarkdownDocs) (schema : Schema) : List GeneratedFile :=
  (config.pages schema).map fun (path, page) => { path := path, content := text page }

def backend (config : MarkdownDocs) : Backend :=
  .ofEmit "md-docs" fun schema => .ok (config.emit schema)

end MarkdownDocs

end RpcSchema
