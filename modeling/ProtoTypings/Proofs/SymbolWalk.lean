import ProtoTypings.Proofs.AliasTable

namespace ProtoTypings

open ProtoTypings.Schema

structure Declaration where
  file : String
  package : String
  enclosing : List String
  name : String
  kind : SymbolKind

def joinPath (names : List String) : String :=
  names.foldl qualify ""

def Declaration.localPath (d : Declaration) : String :=
  joinPath (d.enclosing ++ [d.name])

def Declaration.fullName (d : Declaration) : String :=
  qualify d.package d.localPath

def Declaration.entry (d : Declaration) : Symbol :=
  { fullName := d.fullName, file := d.file, package := d.package, localPath := d.localPath,
    kind := d.kind }

mutual
def subtree (file package : String) (enclosing : List String) :
    MessageDescriptor → List Declaration
  | m@⟨name, _, nested, enums, _, _, _, _⟩ =>
    ⟨file, package, enclosing, name, .message (mapEntryOf m)⟩ ::
      (subtrees file package (enclosing ++ [name]) nested ++
        enums.map fun e => ⟨file, package, enclosing ++ [name], e.name, .enum⟩)

def subtrees (file package : String) (enclosing : List String) :
    List MessageDescriptor → List Declaration
  | [] => []
  | m :: rest => subtree file package enclosing m ++ subtrees file package enclosing rest
end

def fileWalk (f : FileDescriptor) : List Declaration :=
  subtrees f.name f.package [] f.messages ++ f.enums.map fun e => ⟨f.name, f.package, [], e.name, .enum⟩

/-- The declarations of a descriptor set, file by file. -/
def walk (files : List FileDescriptor) : List Declaration :=
  files.flatMap fileWalk

theorem joinPath_append_singleton (names : List String) (name : String) :
    joinPath (names ++ [name]) = qualify (joinPath names) name := by
  simp [joinPath, List.foldl_append]

theorem enumSymbols_eq_walk (o : Origin) (enclosing : List String) (enums : List EnumDescriptor) :
    enumSymbols o (joinPath enclosing) enums =
      (enums.map fun e => (⟨o.file, o.package, enclosing, e.name, .enum⟩ : Declaration)).map
        Declaration.entry := by
  simp [enumSymbols, Origin.symbol, Declaration.entry, Declaration.fullName,
    Declaration.localPath, joinPath_append_singleton]

/- The table's walk builds each path by joining a name onto its parent's path; the declarations
carry the list of names instead. -/
mutual
theorem messageSymbols_eq_subtree (o : Origin) (enclosing : List String) :
    ∀ m : MessageDescriptor,
      messageSymbols o (joinPath enclosing) m =
        (subtree o.file o.package enclosing m).map Declaration.entry
  | ⟨name, _, nested, enums, _, _, _, _⟩ => by
    have parent : qualify (joinPath enclosing) name = joinPath (enclosing ++ [name]) :=
      (joinPath_append_singleton enclosing name).symm
    rw [messageSymbols, subtree, parent, nestedSymbols_eq_subtrees o _ nested,
      enumSymbols_eq_walk o _ enums]
    simp [Origin.symbol, Declaration.entry, Declaration.fullName, Declaration.localPath]

theorem nestedSymbols_eq_subtrees (o : Origin) (enclosing : List String) :
    ∀ ms : List MessageDescriptor,
      nestedSymbols o (joinPath enclosing) ms =
        (subtrees o.file o.package enclosing ms).map Declaration.entry
  | [] => by simp [nestedSymbols, subtrees]
  | m :: rest => by
    rw [nestedSymbols, subtrees, List.map_append, messageSymbols_eq_subtree o enclosing m,
      nestedSymbols_eq_subtrees o enclosing rest]
end

theorem build_symbols_eq_walk (files : List FileDescriptor) :
    (SymbolTable.build files).symbols = (walk files).map Declaration.entry := by
  show files.flatMap fileSymbols = (files.flatMap fileWalk).map Declaration.entry
  rw [List.map_flatMap]
  congr 1
  funext f
  rw [fileSymbols, fileWalk, List.map_append]
  exact congrArg₂ (· ++ ·) (nestedSymbols_eq_subtrees ⟨f.name, f.package⟩ [] f.messages)
    (enumSymbols_eq_walk ⟨f.name, f.package⟩ [] f.enums)

theorem get?_eq_find?_walk (files : List FileDescriptor) (name : String) :
    (SymbolTable.build files).get? name =
      ((walk files).find? (·.fullName = stripDot name)).map Declaration.entry := by
  rw [SymbolTable.get?, build_symbols_eq_walk, List.find?_map]
  rfl

theorem mem_walk_of_scope {files : List FileDescriptor} {c : Emit.Catalog}
    (built : Emit.Catalog.build files = .ok c) {file : FileDescriptor} {inline : Bool}
    {sym : Symbol} (member : sym ∈ (c.scope file inline).symbols) :
    ∃ d ∈ walk files, d.entry = sym := by
  have held : sym ∈ c.symbols := member
  rw [(Emit.catalog_build_ok built).1] at held
  have listed := ExportMap.mem_build held
  rw [build_symbols_eq_walk] at listed
  exact List.mem_map.mp listed

theorem mapEntryOf_eq_some (m : MessageDescriptor) (entry : MapEntry) :
    mapEntryOf m = some entry ↔
      m.isMapEntry ∧ ∃ key value, m.fields.find? (·.number = 1) = some key ∧
        m.fields.find? (·.number = 2) = some value ∧
          entry = ⟨.ofField key, .ofField value⟩ := by
  have numbered : ∀ n : Int,
      (fun f : FieldDescriptor => f.number == n) = fun f => decide (f.number = n) := by
    intro n
    rfl
  unfold mapEntryOf
  by_cases flagged : m.isMapEntry
  · rw [if_pos flagged, numbered, numbered]
    cases m.fields.find? (fun f => decide (f.number = 1)) with
    | none => simp
    | some key =>
      cases m.fields.find? (fun f => decide (f.number = 2)) with
      | none => simp
      | some value =>
        simp only [flagged, Option.pure_def, Option.bind_eq_bind, Option.bind_some,
          Option.some.injEq, true_and]
        constructor
        · rintro rfl
          exact ⟨key, value, rfl, rfl, rfl⟩
        · rintro ⟨_, _, rfl, rfl, rfl⟩
          rfl
  · simp [flagged]

theorem isSome_mapEntryOf (m : MessageDescriptor) :
    (mapEntryOf m).isSome ↔
      m.isMapEntry ∧ (∃ f ∈ m.fields, f.number = 1) ∧ ∃ f ∈ m.fields, f.number = 2 := by
  rw [Option.isSome_iff_exists]
  simp only [mapEntryOf_eq_some]
  constructor
  · rintro ⟨_, flagged, key, value, keyed, valued, -⟩
    refine ⟨flagged, ⟨key, List.mem_of_find?_eq_some keyed, ?_⟩,
      ⟨value, List.mem_of_find?_eq_some valued, ?_⟩⟩
    · simpa using List.find?_some keyed
    · simpa using List.find?_some valued
  · rintro ⟨flagged, hasKey, hasValue⟩
    obtain ⟨key, keyed⟩ := Option.isSome_iff_exists.mp
      (List.find?_isSome.mpr (by simpa using hasKey) : (m.fields.find? (·.number = 1)).isSome)
    obtain ⟨value, valued⟩ := Option.isSome_iff_exists.mp
      (List.find?_isSome.mpr (by simpa using hasValue) : (m.fields.find? (·.number = 2)).isSome)
    exact ⟨_, flagged, key, value, keyed, valued, rfl⟩

/-- The export map of a descriptor set, built by recording each message before what is nested in
it and keeping the first symbol recorded under each full name, finds for a name with at most one
leading dot taken off the first declaration of the walk with that full name, and resolving the
name gives it or the failure naming the name without its dot and the referencing file. The map
counts the distinct full names of the walk. A message is recorded as a map entry exactly when it
is flagged as one and has fields numbered 1 and 2, with the first such fields as key and value. -/
theorem lookup_first_in_walk (files : List FileDescriptor) (name referencing : String) :
    (ExportMap.build files).get? name =
        ((walk files).find? (·.fullName = stripDot name)).map Declaration.entry ∧
    (ExportMap.build files).resolve name referencing =
        (match (walk files).find? (·.fullName = stripDot name) with
          | some d => .ok d.entry
          | none => .error (.unresolved (stripDot name) referencing)) ∧
    (ExportMap.build files).size = ((walk files).map Declaration.fullName).toFinset.card ∧
    ∀ m : MessageDescriptor,
      ((mapEntryOf m).isSome ↔
        m.isMapEntry ∧ (∃ f ∈ m.fields, f.number = 1) ∧ ∃ f ∈ m.fields, f.number = 2) ∧
      ∀ entry, mapEntryOf m = some entry ↔
        m.isMapEntry ∧ ∃ key value, m.fields.find? (·.number = 1) = some key ∧
          m.fields.find? (·.number = 2) = some value ∧ entry = ⟨.ofField key, .ofField value⟩ := by
  have found : (ExportMap.build files).get? name =
      ((walk files).find? (·.fullName = stripDot name)).map Declaration.entry := by
    rw [ExportMap.get?_build, get?_eq_find?_walk]
  refine ⟨found, ?_, ?_, fun m => ⟨isSome_mapEntryOf m, mapEntryOf_eq_some m⟩⟩
  · rw [ExportMap.resolve, found]
    cases (walk files).find? (·.fullName = stripDot name) <;> rfl
  · rw [ExportMap.size_build, build_symbols_eq_walk, List.map_map]
    rfl

def unnamedOuterFile : FileDescriptor :=
  { name := "a.proto", messages := [{ name := "", nested := [{ name := "B" }] }] }

/-- A name joined onto the empty path of an unnamed message stands alone: the export map finds
`B` under the name `B`, with local path `B`, while dotting together the names around it and its
own name (`""` and `"B"`) gives `.B`, the name of no declaration of the walk. -/
theorem nested_in_unnamed_message :
    (ExportMap.build [unnamedOuterFile]).get? "B" =
        some ⟨"B", "a.proto", "", "B", .message none⟩ ∧
      ∀ d ∈ walk [unnamedOuterFile],
        qualify d.package (".".intercalate (d.enclosing ++ [d.name])) ≠ "B" := by
  decide

end ProtoTypings
