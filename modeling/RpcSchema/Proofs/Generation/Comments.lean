import RpcSchema.Proofs.Code.Comments
import RpcSchema.Target.GoCode
import RpcSchema.Target.TsCode

/-!
# Comments of declarations

Source files carry their comments in the declarations they belong to. A file whose comments have one
line each has the code that it has without them.
-/

namespace RpcSchema

open Code

/-- A text that has no second line. -/
def OneLine (text : String) : Prop := '\n' ∉ text.toList

instance (text : String) : Decidable (OneLine text) :=
  inferInstanceAs (Decidable ('\n' ∉ text.toList))

namespace GoCode

def Field.bare (field : Field) : Field := { field with doc := none }

def Struct.bare (struct : Struct) : Struct :=
  { struct with doc := none, fields := struct.fields.map Field.bare }

theorem Struct.bare_bare (struct : Struct) : struct.bare.bare = struct.bare := by
  rw [bare, bare, List.map_map]
  rfl

def Func.bare (func : Func) : Func := { func with doc := none }

def Decl.bare : Decl → Decl
  | .struct decl => .struct decl.bare
  | .func decl => .func decl.bare
  | .raw source => .raw source

/-- A file without the comments of its declarations. -/
def File.bare (file : File) : File := { file with decls := file.decls.map Decl.bare }

def Struct.docs (struct : Struct) : List String :=
  struct.doc.toList ++ struct.fields.flatMap fun field => field.doc.toList

def Decl.docs : Decl → List String
  | .struct decl => decl.docs
  | .func decl => decl.doc.toList
  | .raw _ => []

/-- The comments of the declarations in a file. -/
def File.docs (file : File) : List String := file.decls.flatMap Decl.docs

theorem codeOf_field {field : Field} (single : ∀ doc ∈ field.doc.toList, OneLine doc) :
    codeOf field.fragments = codeOf field.bare.fragments := by
  rw [Field.fragments, docFragments, codeOf_append, codeOf_comments single, List.nil_append]
  rfl

theorem codeOf_struct {struct : Struct} (single : ∀ doc ∈ struct.docs, OneLine doc) :
    codeOf struct.fragments = codeOf struct.bare.fragments := by
  obtain ⟨above, within⟩ := List.forall_mem_append.mp single
  have fields : codeOf (spaced (struct.fields.map Field.fragments)) =
      codeOf (spaced (struct.bare.fields.map Field.fragments)) := by
    rw [codeOf_spaced, codeOf_spaced, Struct.bare, List.flatMap_map, List.map_map, List.flatMap_map]
    refine List.flatMap_congr fun field member => codeOf_field fun doc listed => ?_
    exact within doc (List.mem_flatMap.mpr ⟨field, member, listed⟩)
  have isEmpty : struct.bare.fields.isEmpty = struct.fields.isEmpty := by
    rw [Struct.bare, List.isEmpty_map]
  rw [Struct.fragments, docFragments, codeOf_append, codeOf_comments above, List.nil_append,
    Struct.fragments, isEmpty]
  split
  · rfl
  · rw [codeOf_block, fields, docFragments, codeOf_append, codeOf_block]
    rfl

theorem codeOf_decl {decl : Decl} (single : ∀ doc ∈ decl.docs, OneLine doc) :
    codeOf decl.fragments = codeOf decl.bare.fragments := by
  cases decl with
  | struct decl => exact codeOf_struct single
  | func decl =>
      have above : ∀ doc ∈ decl.doc.toList, OneLine doc := single
      have without : decl.bare.fragments = [block decl.signature decl.body "\x7d"] := rfl
      rw [Decl.bare, Decl.fragments, Decl.fragments, without, Func.fragments, docFragments,
        codeOf_append, codeOf_comments above, List.nil_append]
  | raw source => rfl

/-- Comments of one line each do not add to the code of a file. -/
theorem File.codeRows_text {file : File} (single : ∀ doc ∈ file.docs, OneLine doc) :
    codeRows file.text = codeRows file.bare.text := by
  have decls : codeOf (file.decls.flatMap fun decl => .blank :: decl.fragments) =
      codeOf (file.bare.decls.flatMap fun decl => .blank :: decl.fragments) := by
    rw [codeOf_flatMap, codeOf_flatMap, File.bare, List.flatMap_map]
    refine List.flatMap_congr fun decl member => ?_
    have docs : ∀ doc ∈ decl.docs, OneLine doc := fun doc listed =>
      single doc (List.mem_flatMap.mpr ⟨decl, member, listed⟩)
    rw [codeOf_cons, codeOf_decl docs]
    rfl
  rw [text, codeRows_write, text, codeRows_write, fragments, codeOf_append, decls, ← codeOf_append]
  rfl

/-- Files whose declarations are the same but for comments of one line have the same code. -/
theorem File.codeRows_eq {file other : File} (single : ∀ doc ∈ file.docs, OneLine doc)
    (also : ∀ doc ∈ other.docs, OneLine doc) (same : other.bare = file.bare) :
    codeRows other.text = codeRows file.text := by
  rw [codeRows_text also, same, codeRows_text single]

end GoCode

namespace TsCode

def InterfaceField.bare (field : InterfaceField) : InterfaceField := { field with doc := none }

def Interface.bare (interface : Interface) : Interface :=
  { interface with doc := none, fields := interface.fields.map InterfaceField.bare }

def Interface.docs (interface : Interface) : List String :=
  interface.doc.toList ++ interface.fields.flatMap fun field => field.doc.toList

theorem codeOf_field {field : InterfaceField} (single : ∀ doc ∈ field.doc.toList, OneLine doc) :
    codeOf field.fragments = codeOf field.bare.fragments := by
  rw [InterfaceField.fragments, codeOf_append, codeOf_comments single, List.nil_append]
  rfl

theorem codeOf_interface {interface : Interface} (single : ∀ doc ∈ interface.docs, OneLine doc) :
    codeOf interface.fragments = codeOf interface.bare.fragments := by
  obtain ⟨above, within⟩ := List.forall_mem_append.mp single
  have fields : codeOf (spaced (interface.fields.map InterfaceField.fragments)) =
      codeOf (spaced (interface.bare.fields.map InterfaceField.fragments)) := by
    rw [codeOf_spaced, codeOf_spaced, Interface.bare, List.flatMap_map, List.map_map,
      List.flatMap_map]
    refine List.flatMap_congr fun field member => codeOf_field fun doc listed => ?_
    exact within doc (List.mem_flatMap.mpr ⟨field, member, listed⟩)
  have isEmpty : interface.bare.fields.isEmpty = interface.fields.isEmpty := by
    rw [Interface.bare, List.isEmpty_map]
  rw [Interface.fragments, codeOf_append, codeOf_comments above, List.nil_append,
    Interface.fragments, isEmpty]
  split
  · rfl
  · rw [codeOf_block, fields, codeOf_append, codeOf_block]
    rfl

/-- The code of a file of interfaces is that of its interfaces without their comments. -/
theorem codeRows_interfaces {interfaces : List Interface}
    (single : ∀ interface ∈ interfaces, ∀ doc ∈ interface.docs, OneLine doc) :
    codeRows (TsCode.File.text { decls := interfaces.map .interface }) =
      (interfaces.map Interface.bare).flatMap fun interface => codeOf interface.fragments := by
  have mark : codeOf [.comment generatedMark] = [] := codeOf_comment (by decide)
  have fragments : File.fragments { decls := interfaces.map .interface } =
      .comment generatedMark :: (interfaces.map Decl.interface).flatMap fun decl =>
        .blank :: decl.fragments := rfl
  rw [File.text, source, codeRows_write, fragments, codeOf_cons, mark, List.nil_append,
    codeOf_flatMap, List.flatMap_map, List.flatMap_map]
  refine List.flatMap_congr fun interface member => ?_
  rw [codeOf_cons, codeOf_blank, List.nil_append, Decl.fragments,
    codeOf_interface (single interface member)]

end TsCode

end RpcSchema
