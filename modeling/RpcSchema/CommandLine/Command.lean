import RpcSchema.CommandLine.Setting
import RpcSchema.Pipeline.Lint
import RpcSchema.Target.CsClient
import RpcSchema.Target.GoClient
import RpcSchema.Target.GoServer
import RpcSchema.Target.GoTypes
import RpcSchema.Target.MarkdownDocs
import RpcSchema.Target.RustClient
import RpcSchema.Target.RustServer
import RpcSchema.Target.RustTypes
import RpcSchema.Target.TsClient
import RpcSchema.Target.TsTypes

/-!
Commands, and the command lines that stand for them.
-/

namespace RpcSchema.CommandLine

/-- Where the schema is, and how strictly its groups are judged. -/
structure SchemaSource where
  path : String := "schema.json"
  policy : GroupPolicy := .omit

inductive Command
  | version
  | check (source : SchemaSource)
  /-- Runs a backend; its files go below a directory, or to the standard output. -/
  | generate (source : SchemaSource) (output : Option String) (backend : Backend)

/-- A command that runs a backend. -/
structure Generator where
  name : String
  options : List OptionForm := []
  backend : List Setting → Backend

def schemaOptions : List OptionForm := [
  { name := "schema", letter := some 's', value := .path },
  { name := "reject-unknown-groups", value := .nothing }]

def outputOption : OptionForm := { name := "output", letter := some 'o', value := .path }

def packageOption : OptionForm := { name := "package", value := .text }

def runtimeOption : OptionForm := { name := "runtime", value := .text }

def typesOption : OptionForm := { name := "types", value := .text }

def validateOption : OptionForm := { name := "validate", value := .nothing }

def tracingOption : OptionForm := { name := "tracing", value := .nothing }

def generators : List Generator := [
  { name := "go-types"
    options := [packageOption, validateOption, runtimeOption]
    backend := fun settings => GoTypes.backend {
      package := (value? settings "package").getD "api"
      validate := isSet settings "validate"
      runtime := (value? settings "runtime").getD GoCode.defaultRuntime } },
  { name := "go-server"
    options := [packageOption, typesOption, tracingOption, runtimeOption]
    backend := fun settings => GoServer.backend {
      package := (value? settings "package").getD "api"
      types := value? settings "types"
      tracing := isSet settings "tracing"
      runtime := (value? settings "runtime").getD GoCode.defaultRuntime } },
  { name := "go-client"
    options := [packageOption]
    backend := fun settings =>
      GoClient.backend { package := (value? settings "package").getD "client" } },
  { name := "ts-types"
    backend := fun _ => TsTypes.backend },
  { name := "ts-client"
    options := [typesOption]
    backend := fun settings =>
      TsClient.backend { types := (value? settings "types").getD "./types" } },
  { name := "rust-types"
    options := [validateOption]
    backend := fun settings => RustTypes.backend { validate := isSet settings "validate" } },
  { name := "rust-server"
    options := [typesOption, validateOption, tracingOption]
    backend := fun settings => RustServer.backend {
      types := (value? settings "types").getD RustCode.defaultTypes
      validate := isSet settings "validate"
      tracing := isSet settings "tracing" } },
  { name := "rust-client"
    options := [typesOption]
    backend := fun settings =>
      RustClient.backend { types := (value? settings "types").getD RustCode.defaultTypes } },
  { name := "dotnet-client"
    options := [{ name := "namespace", value := .text }, { name := "class", value := .text }]
    backend := fun settings => CsClient.backend {
      «namespace» := (value? settings "namespace").getD "MyNamespace"
      className := (value? settings "class").getD "Client" } },
  { name := "md-docs"
    options := [
      { name := "layout", value := .choice ["per-file", "single-page"] },
      { name := "include-private", value := .nothing }]
    backend := fun settings => MarkdownDocs.backend {
      layout := if value? settings "layout" = some "single-page" then .singlePage else .perFile
      includePrivate := isSet settings "include-private" } }]

def sourceOf (settings : List Setting) : SchemaSource where
  path := (value? settings "schema").getD "schema.json"
  policy := if isSet settings "reject-unknown-groups" then .reject else .omit

/-- Whether an argument asks for the version. Behind the letter nothing is read any more. -/
def asksVersion (argument : String) : Bool :=
  argument == "--version" || ['-', 'V'].isPrefixOf argument.toList

/-- The command of a command line; none when it is not one. -/
def Command.ofArguments? : List String → Option Command
  | [] => none
  | first :: rest =>
    if asksVersion first then some .version
    else if first = "check" then do
      let settings ← readSettings schemaOptions rest []
      return .check (sourceOf settings)
    else do
      let generator ← generators.find? fun generator => generator.name == first
      let settings ←
        readSettings (schemaOptions ++ outputOption :: generator.options) rest []
      return .generate (sourceOf settings) (value? settings "output") (generator.backend settings)

end RpcSchema.CommandLine
