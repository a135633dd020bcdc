import RpcSchema.Proofs.Code.DocBlocks
import RpcSchema.Target.RustCode

/-!
# Documentation of Rust and C# declarations

Every declaration has its documentation in front of it, and so have the declarations inside of it.
Without all of that a file has the same lines but for the documentation.
-/

namespace RpcSchema

open Code

/-! ## Rust -/

namespace RustCode

def Func.bare (func : Func) : Func := { func with doc := none }

def Field.bare (field : Field) : Field := { field with doc := none }

def Struct.bare (struct : Struct) : Struct :=
  { struct with doc := none, fields := struct.fields.map Field.bare }

theorem Struct.bare_bare (struct : Struct) : struct.bare.bare = struct.bare := by
  rw [bare, bare, List.map_map]
  rfl

def Impl.bare (impl : Impl) : Impl := { impl with methods := impl.methods.map Func.bare }

def Trait.bare (decl : Trait) : Trait :=
  { decl with doc := none, items := decl.items.map Func.bare }

def Decl.bare : Decl → Decl
  | .func decl => .func decl.bare
  | .struct decl => .struct decl.bare
  | .impl decl => .impl decl.bare
  | .interface decl => .interface decl.bare
  | .raw source => .raw source

/-- A file without the documentation of its declarations. -/
def File.bare (file : File) : File := { file with decls := file.decls.map Decl.bare }

theorem documents_docFragments (doc : Option String) :
    Documents IsDocBlock (docFragments none) (docFragments doc) := by
  cases doc with
  | none => exact .refl _
  | some text => exact documents_docLines text

theorem documents_func (func : Func) : Documents IsDocBlock func.bare.fragments func.fragments :=
  ((documents_docFragments func.doc).append (.refl _)).append (.refl _)

theorem documents_field (field : Field) :
    Documents IsDocBlock field.bare.fragments field.fragments :=
  ((documents_docFragments field.doc).append (.refl _)).append (.refl _)

theorem documents_struct (struct : Struct) :
    Documents IsDocBlock struct.bare.fragments struct.fragments := by
  have isEmpty : struct.bare.fields.isEmpty = struct.fields.isEmpty := List.isEmpty_map
  have fields : struct.bare.fields.flatMap Field.fragments =
      struct.fields.flatMap fun field => field.bare.fragments := List.flatMap_map ..
  rw [Struct.fragments, Struct.fragments, isEmpty, fields]
  refine .append (.append (.append (documents_docFragments struct.doc) (.refl _)) (.refl _)) ?_
  split
  · exact .refl _
  · exact .block _ _ (.flatMap fun field _ => documents_field field)

theorem documents_impl (impl : Impl) :
    Documents IsDocBlock impl.bare.fragments impl.fragments := by
  have methods : impl.bare.methods.map Func.fragments =
      impl.methods.map fun func => func.bare.fragments := List.map_map
  rw [Impl.fragments, Impl.fragments, methods]
  exact .block _ _ (.spaced (Documents.forall₂_map documents_func))

theorem documents_trait (decl : Trait) :
    Documents IsDocBlock decl.bare.fragments decl.fragments := by
  have items : decl.bare.items.map (fun item => item.asPrivate.fragments) =
      decl.items.map fun item => item.asPrivate.bare.fragments := List.map_map
  rw [Trait.fragments, Trait.fragments, items]
  exact .append (documents_docFragments decl.doc)
    (.block _ _ (.spaced (Documents.forall₂_map fun item => documents_func item.asPrivate)))

theorem documents_decl (decl : Decl) :
    Documents IsDocBlock decl.bare.fragments decl.fragments := by
  cases decl with
  | func decl => exact documents_func decl
  | struct decl => exact documents_struct decl
  | impl decl => exact documents_impl decl
  | interface decl => exact documents_trait decl
  | raw source => exact .refl _

theorem documents_file (file : File) :
    Documents IsDocBlock file.bare.fragments file.fragments := by
  have decls : file.bare.decls.map Decl.fragments =
      file.decls.map fun decl => decl.bare.fragments := List.map_map
  rw [File.fragments, File.fragments, decls]
  refine .spaced (List.rel_append ?_ (Documents.forall₂_map documents_decl))
  exact List.forall₂_same.mpr fun part _ => .refl part

/-- The text of a file is that of its declarations, with their documentation between the lines. -/
theorem File.documented (file : File) :
    Documented IsDocBlock (file.bare.text.toList.splitOn '\n') (file.text.toList.splitOn '\n') :=
  (documents_file file).documented

end RustCode

/-! ## C# -/

namespace CsCode

def Property.bare (property : Property) : Property := { property with doc := none }

def Method.bare (method : Method) : Method := { method with doc := none }

mutual
/-- A class without its documentation and that of its members. -/
def ClassDecl.bare : ClassDecl → ClassDecl
  | ⟨name, _, base, members⟩ => ⟨name, none, base, bareMembers members⟩

def Member.bare : Member → Member
  | .property decl => .property decl.bare
  | .method decl => .method decl.bare
  | .nested decl => .nested decl.bare
  | .raw source => .raw source

def bareMembers : List Member → List Member
  | [] => []
  | member :: rest => member.bare :: bareMembers rest
end

theorem bareMembers_eq_map (members : List Member) :
    bareMembers members = members.map Member.bare := by
  induction members with
  | nil => rfl
  | cons member rest ih => rw [bareMembers, ih, List.map_cons]

theorem documents_docFragments (doc : Option String) :
    Documents IsSummary (docFragments none) (docFragments doc) := by
  cases doc with
  | none => exact .refl _
  | some text => exact documents_summary text

theorem documents_property (property : Property) :
    Documents IsSummary property.bare.fragments property.fragments :=
  (documents_docFragments property.doc).append (.refl _)

theorem documents_method (method : Method) :
    Documents IsSummary method.bare.fragments method.fragments :=
  (documents_docFragments method.doc).append (.refl _)

mutual
theorem documents_class (decl : ClassDecl) :
    Documents IsSummary decl.bare.fragments decl.fragments := by
  cases decl with
  | mk name doc base members =>
      rw [ClassDecl.bare, ClassDecl.fragments, ClassDecl.fragments, classFragments, classFragments]
      exact (documents_docFragments doc).append (.append (.refl [_])
        (.block _ _ (.spaced (documents_members members))))

theorem documents_member (member : Member) :
    Documents IsSummary member.bare.fragments member.fragments := by
  cases member with
  | property decl => exact documents_property decl
  | method decl => exact documents_method decl
  | nested decl => exact documents_class decl
  | raw source => exact .refl _

theorem documents_members (members : List Member) :
    List.Forall₂ (Documents IsSummary) (membersFragments (bareMembers members))
      (membersFragments members) := by
  cases members with
  | nil => exact .nil
  | cons member rest => exact .cons (documents_member member) (documents_members rest)
end

end CsCode

end RpcSchema
