import ProtoTypings.Proofs.DeclaredTypes

namespace ProtoTypings

open ProtoTypings.Schema

mutual
def messagePaths (parent : String) : MessageDescriptor → List String
  | m@⟨name, _, nested, enums, _, _, _, _⟩ =>
    if m.isMapEntry then []
    else qualify parent name ::
      (nestedPaths (qualify parent name) nested ++
        enums.map fun e => qualify (qualify parent name) e.name)

def nestedPaths (parent : String) : List MessageDescriptor → List String
  | [] => []
  | m :: rest => messagePaths parent m ++ nestedPaths parent rest
end

/-- The local paths of the messages and enums that the declarations artifact of a file declares:
its messages that are no map entries and lie in none, and the enums of those and of the file. -/
def declaredPaths (f : FileDescriptor) : List String :=
  nestedPaths "" f.messages ++ f.enums.map fun e => qualify "" e.name

mutual
def messageEntrySymbols (o : Origin) (parent : String) : MessageDescriptor → List Symbol
  | m@⟨name, _, nested, _, _, _, _, _⟩ =>
    if m.isMapEntry then messageSymbols o parent m
    else nestedEntrySymbols o (qualify parent name) nested

def nestedEntrySymbols (o : Origin) (parent : String) : List MessageDescriptor → List Symbol
  | [] => []
  | m :: rest => messageEntrySymbols o parent m ++ nestedEntrySymbols o parent rest
end

/-- The symbols of a file that lie in a map entry: the map entry messages and all they hold. -/
def entrySymbols (f : FileDescriptor) : List Symbol :=
  nestedEntrySymbols ⟨f.name, f.package⟩ "" f.messages

mutual
theorem messageSymbols_declared (o : Origin) (parent : String) :
    ∀ m : MessageDescriptor, ∀ sym ∈ messageSymbols o parent m,
      sym.localPath ∈ messagePaths parent m ∨ sym ∈ messageEntrySymbols o parent m
  | ⟨name, fields, nested, enums, extensions, ranges, oneofs, options⟩ => by
    intro sym member
    rw [messagePaths, messageEntrySymbols]
    -- one test decides both: a map entry declares nothing, and all of it lies in the map entry
    split
    · exact .inr member
    · rw [messageSymbols] at member
      rcases List.mem_cons.mp member with rfl | member
      · exact .inl List.mem_cons_self
      rcases List.mem_append.mp member with inner | enum
      · rcases nestedSymbols_declared o _ nested sym inner with declared | hidden
        · exact .inl (List.mem_cons_of_mem _ (List.mem_append_left _ declared))
        · exact .inr hidden
      · obtain ⟨e, listed, rfl⟩ := List.mem_map.mp enum
        exact .inl (List.mem_cons_of_mem _
          (List.mem_append_right _ (List.mem_map.mpr ⟨e, listed, rfl⟩)))

theorem nestedSymbols_declared (o : Origin) (parent : String) :
    ∀ ms : List MessageDescriptor, ∀ sym ∈ nestedSymbols o parent ms,
      sym.localPath ∈ nestedPaths parent ms ∨ sym ∈ nestedEntrySymbols o parent ms
  | [] => by simp [nestedSymbols]
  | m :: rest => by
    intro sym member
    rw [nestedSymbols] at member
    rw [nestedPaths, nestedEntrySymbols]
    rcases List.mem_append.mp member with here | later
    · rcases messageSymbols_declared o parent m sym here with declared | hidden
      · exact .inl (List.mem_append_left _ declared)
      · exact .inr (List.mem_append_left _ hidden)
    · rcases nestedSymbols_declared o parent rest sym later with declared | hidden
      · exact .inl (List.mem_append_right _ declared)
      · exact .inr (List.mem_append_right _ hidden)
end

theorem fileSymbols_declared (f : FileDescriptor) :
    ∀ sym ∈ fileSymbols f, sym.localPath ∈ declaredPaths f ∨ sym ∈ entrySymbols f := by
  intro sym member
  rcases List.mem_append.mp member with message | enum
  · rcases nestedSymbols_declared _ _ _ sym message with declared | hidden
    · exact .inl (List.mem_append_left _ declared)
    · exact .inr hidden
  · obtain ⟨e, listed, rfl⟩ := List.mem_map.mp enum
    exact .inl (List.mem_append_right _ (List.mem_map.mpr ⟨e, listed, rfl⟩))

mutual
theorem messagePaths_sublist (parent : String) :
    ∀ m : MessageDescriptor, (messagePaths parent m).Sublist (Emit.messageTypes parent m)
  | ⟨name, fields, nested, enums, extensions, ranges, oneofs, options⟩ => by
    rw [messagePaths, Emit.messageTypes]
    split
    · exact List.Sublist.refl []
    · -- the case enums of the oneofs are the only types the paths leave out
      exact ((nestedPaths_sublist _ nested).append (List.Sublist.refl _)).trans
        (List.sublist_append_left _ _) |>.cons_cons _

theorem nestedPaths_sublist (parent : String) :
    ∀ ms : List MessageDescriptor, (nestedPaths parent ms).Sublist (Emit.nestedTypes parent ms)
  | [] => List.Sublist.refl []
  | m :: rest => (messagePaths_sublist parent m).append (nestedPaths_sublist parent rest)
end

theorem declaredPaths_sublist (f : FileDescriptor) : (declaredPaths f).Sublist (Emit.fileTypes f) :=
  (nestedPaths_sublist "" f.messages).append (List.Sublist.refl _)

/-- Every expression a typing scope of a descriptor set's catalog writes for a reference is the
local path of the symbol the catalog finds for the name, which is the first of the walk with that
name, declared by a file of the set with that name: bare only from an inline scope into that file,
else behind the alias of the file. Unless the symbol lies in a map entry, the path is among those
the file declares, and every declarations artifact of the file declares it. -/
theorem typeRef_names_declaration {files : List FileDescriptor} {c : Emit.Catalog}
    (built : Emit.Catalog.build files = .ok c) (file : FileDescriptor) (inline : Bool)
    {name e : String} {s s' : Typing.ImportSet}
    (typed : (((c.scope file inline).typeRef name).run).run s = (.ok e, s')) :
    ∃ sym, c.symbols.get? name = some sym ∧ (SymbolTable.build files).get? name = some sym ∧
      ∃ g ∈ files, g.name = sym.file ∧ sym ∈ fileSymbols g ∧
      (inline = true ∧ sym.file = file.name ∧ e = sym.localPath ∨
        ¬(inline = true ∧ sym.file = file.name) ∧
          e = Module.aliasOf sym.file ++ "." ++ sym.localPath) ∧
      ((sym.localPath ∈ declaredPaths g ∧
          ∀ text, c.declarations g = .ok text → ∃ imports body,
            text = Emit.artifactText g imports (Layout.render body) ∧
              sym.localPath ∈ Layout.declaredTypes [] body) ∨
        sym ∈ entrySymbols g) := by
  obtain ⟨sym, found, written⟩ := Typing.typeRef_ok typed
  have held : c.symbols.get? name = some sym := ExportMap.resolve_eq_ok.mp found
  have first : (SymbolTable.build files).get? name = some sym := by
    rw [← ExportMap.get?_build, ← (Emit.catalog_build_ok built).1]
    exact held
  obtain ⟨g, inSet, declared⟩ :=
    List.mem_flatMap.mp (List.mem_of_find?_eq_some (first : _ = some sym))
  refine ⟨sym, held, first, g, inSet, (fileSymbols_file g sym declared).symm, declared, written, ?_⟩
  rcases fileSymbols_declared g sym declared with listed | hidden
  · refine .inl ⟨listed, fun text artifact => ?_⟩
    obtain ⟨imports, body, rfl, types⟩ := Emit.declarations_types artifact
    exact ⟨imports, body, rfl, types ▸ (declaredPaths_sublist g).subset listed⟩
  · exact .inr hidden

theorem sample_reference_declared :
    Emit.Catalog.build [Emit.libFile, Emit.appFile] = .ok Emit.sampleCatalog ∧
    (((Emit.sampleCatalog.scope Emit.appFile true).typeRef ".lib.M").run).run {} =
      (.ok "lib_b_pb.M", ⟨["lib/b.proto"]⟩) ∧
    ∃ sym, Emit.sampleCatalog.symbols.get? ".lib.M" = some sym ∧
      (SymbolTable.build [Emit.libFile, Emit.appFile]).get? ".lib.M" = some sym ∧
      ∃ g ∈ [Emit.libFile, Emit.appFile], g.name = sym.file ∧ sym ∈ fileSymbols g ∧
      (true = true ∧ sym.file = Emit.appFile.name ∧ "lib_b_pb.M" = sym.localPath ∨
        ¬(true = true ∧ sym.file = Emit.appFile.name) ∧
          "lib_b_pb.M" = Module.aliasOf sym.file ++ "." ++ sym.localPath) ∧
      ((sym.localPath ∈ declaredPaths g ∧
          ∀ text, Emit.sampleCatalog.declarations g = .ok text → ∃ imports body,
            text = Emit.artifactText g imports (Layout.render body) ∧
              sym.localPath ∈ Layout.declaredTypes [] body) ∨
        sym ∈ entrySymbols g) :=
  ⟨rfl, rfl, @typeRef_names_declaration [Emit.libFile, Emit.appFile] Emit.sampleCatalog rfl
    Emit.appFile true ".lib.M" "lib_b_pb.M" {} ⟨["lib/b.proto"]⟩ rfl⟩

def entryField : FieldDescriptor :=
  { name := "y", number := 1, kind := .message, typeName := ".a.M.FooEntry" }

def fooEntry : MessageDescriptor :=
  { name := "FooEntry", options := some { mapEntry := true },
    fields := [{ name := "key", number := 1, kind := .string },
               { name := "value", number := 2, kind := .int32 }] }

def entryFile : FileDescriptor :=
  { name := "a.proto", package := "a",
    messages := [{ name := "M", fields := [entryField], nested := [fooEntry] }] }

def entryCatalog : Emit.Catalog :=
  ⟨ExportMap.build [entryFile], Module.AliasTable.empty.cache "a.proto"⟩

/-- The declarations of `entryFile` are written and declare the type `M` only, yet the type of its
field `y` is the bare path `M.FooEntry`, of the map entry. -/
theorem map_entry_field_undeclared :
    Emit.Catalog.build [entryFile] = .ok entryCatalog ∧
    (∃ text, entryCatalog.declarations entryFile = .ok text) ∧
    (((entryCatalog.scope entryFile true).fieldType entryField).run).run {} =
      (.ok ⟨⟨"M.FooEntry", .message⟩, .singular⟩, {}) ∧
    declaredPaths entryFile = ["M"] ∧ Emit.fileTypes entryFile = ["M"] :=
  ⟨rfl, ⟨_, rfl⟩, rfl, rfl, rfl⟩

end ProtoTypings
