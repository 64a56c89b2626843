import Mathlib.Data.List.Nodup
import ProtoTypings.Proofs.Layout
import ProtoTypings.Proofs.ImportSet
import ProtoTypings.Proofs.Aliases
import ProtoTypings.Proofs.Symbols

namespace ProtoTypings.Emit

open ProtoTypings.Schema
open ProtoTypings.Layout
open ProtoTypings.Typing

def importOrder (file : FileDescriptor) (referenced : List String) : List String :=
  (file.dependencies.filter (· ≠ file.name)).eraseDups ++
    referenced.filter fun r => r ∉ file.dependencies ∧ r ≠ file.name

/-- An artifact of `file` with import lines `imports`: the header lines naming the package and the
file, an empty line, the import lines and an empty line, each ended by a newline, then `body`. -/
def artifactText (file : FileDescriptor) (imports : List String) (body : String) : String :=
  String.join ((["// package: " ++ file.package, "// file: " ++ file.name, ""] ++ imports ++ [""]).map
    (· ++ "\n")) ++ body

theorem mem_importOrder {file : FileDescriptor} {referenced : List String} {x : String} :
    x ∈ importOrder file referenced ↔
      (x ∈ file.dependencies ∨ x ∈ referenced) ∧ x ≠ file.name := by
  by_cases dep : x ∈ file.dependencies <;> simp [importOrder, dep]

theorem firstMentions_eq (seen xs : List String) :
    firstMentions seen xs = (xs.filter (· ∉ seen)).eraseDups := by
  induction xs generalizing seen with
  | nil => rfl
  | cons x rest ih =>
    by_cases old : x ∈ seen
    · simp [firstMentions, old, ih]
    · rw [firstMentions, if_neg old, ih, List.filter_cons_of_pos (by simpa using old),
        List.eraseDups_cons, List.filter_filter]
      congr 3
      funext y
      by_cases same : y = x <;> simp [same]

theorem firstMentions_nodup (seen xs : List String) :
    (firstMentions seen xs).Nodup ∧ ∀ x ∈ firstMentions seen xs, x ∉ seen := by
  induction xs generalizing seen with
  | nil => simp [firstMentions]
  | cons x rest ih =>
    by_cases old : x ∈ seen
    · simpa [firstMentions, old] using ih seen
    · obtain ⟨distinct, fresh⟩ := ih (x :: seen)
      simp only [firstMentions, if_neg old, List.nodup_cons, List.mem_cons]
      refine ⟨⟨fun member => fresh x member List.mem_cons_self, distinct⟩, ?_⟩
      rintro y (rfl | later)
      · exact old
      · exact fun member => fresh y later (List.mem_cons_of_mem x member)

theorem eraseDups_of_nodup : ∀ {xs : List String}, xs.Nodup → xs.eraseDups = xs
  | [], _ => rfl
  | x :: rest, distinct => by
    obtain ⟨fresh, distinct'⟩ := List.nodup_cons.mp distinct
    have kept : rest.filter (fun y => !y == x) = rest :=
      List.filter_eq_self.mpr fun y member => by
        have : y ≠ x := fun same => fresh (same ▸ member)
        simpa using this
    rw [List.eraseDups_cons, kept, eraseDups_of_nodup distinct']

theorem importedFiles_eq {file : FileDescriptor} {referenced : List String}
    (distinct : referenced.Nodup) : importedFiles file referenced = importOrder file referenced := by
  unfold importedFiles importOrder
  have own : file.dependencies.filter (· ∉ [file.name]) =
      file.dependencies.filter (· ≠ file.name) :=
    List.filter_congr fun d _ => by simp
  have others : (referenced.filter (· ∉ file.dependencies)).filter (· ∉ [file.name]) =
      referenced.filter fun r => r ∉ file.dependencies ∧ r ≠ file.name := by
    rw [List.filter_filter]
    exact List.filter_congr fun r _ => by simp [and_comm]
  -- the referenced files left over are no dependencies, so taking out the dependencies keeps them
  have apart : (referenced.filter fun r => r ∉ file.dependencies ∧ r ≠ file.name).removeAll
      (file.dependencies.filter (· ≠ file.name)) =
        referenced.filter fun r => r ∉ file.dependencies ∧ r ≠ file.name := by
    unfold List.removeAll
    apply List.filter_eq_self.mpr
    intro r member
    have : r ∉ file.dependencies := (by simpa using (List.mem_filter.mp member).2 : _ ∧ _).1
    simp [this]
  rw [firstMentions_eq, List.filter_append, List.eraseDups_append, own, others, apart,
    eraseDups_of_nodup (distinct.filter _)]

theorem nodup_importOrder {file : FileDescriptor} {referenced : List String}
    (distinct : referenced.Nodup) : (importOrder file referenced).Nodup := by
  rw [← importedFiles_eq distinct]
  exact (firstMentions_nodup _ _).1

theorem dependencyImports_eq_map (aliases : Module.AliasTable) (file : FileDescriptor)
    (referenced : List String) :
    dependencyImports aliases file referenced =
      (importedFiles file referenced).map (fileImport file.name) := by
  simp only [dependencyImports, Module.AliasTable.aliasFor_eq]
  rfl

theorem dependencyImports_eq {aliases : Module.AliasTable} {file : FileDescriptor}
    {referenced : List String} (distinct : referenced.Nodup) :
    dependencyImports aliases file referenced =
      (importOrder file referenced).map (fileImport file.name) := by
  rw [dependencyImports_eq_map, importedFiles_eq distinct]

theorem render_header (file : FileDescriptor) (imports : List String) (body : String) :
    render (headerBlocks file ++ imports.map Step.line ++ [.blank]) ++ body =
      artifactText file imports body := by
  have header : headerBlocks file =
      ["// package: " ++ file.package, "// file: " ++ file.name].map Step.line ++ [.blank] := rfl
  rw [header, List.append_assoc, List.append_assoc, render_lines_append, List.singleton_append,
    render_blank_cons, render_lines_append, render_lines, render_lines, render_blank]
  simp only [artifactText, List.map_append, String.join_append, List.map_cons, List.map_nil,
    String.join_cons, String.join_nil, String.append_empty, String.empty_append, String.append_assoc]

theorem declarations_eq_ok {c : Catalog} {file : FileDescriptor} {text : String} :
    c.declarations file = .ok text ↔
      ∃ body referenced,
        runTyping (declarationBody (c.scope file true) file) = (.ok body, referenced) ∧
        text = artifactText file (runtimeImport :: dependencyImports c.aliases file referenced.files)
          (render body) := by
  unfold Catalog.declarations
  rcases typed : runTyping (declarationBody (c.scope file true) file) with ⟨_ | body, referenced⟩
  · simp
  · simp only [Except.ok.injEq, Prod.mk.injEq]
    constructor
    · intro built
      exact ⟨body, referenced, ⟨rfl, rfl⟩, by rw [← built, ← List.map_cons, render_header]⟩
    · rintro ⟨_, _, ⟨rfl, rfl⟩, rfl⟩
      rw [← List.map_cons, render_header]

theorem services_eq_ok {c : Catalog} {file : FileDescriptor} {text : String}
    (offers : file.services ≠ []) :
    c.services file = .ok text ↔
      ∃ bodies referenced,
        runTyping (file.services.mapM (serviceBlocks (c.scope file false) file.package)) =
          (.ok bodies, referenced) ∧
        text = artifactText file
          (runtimeImport :: importLine (Module.aliasOf file.name) (Module.relativeModule file.name) ::
            dependencyImports c.aliases file referenced.files) (render bodies.flatten) := by
  unfold Catalog.services
  rw [if_neg (by simpa using offers)]
  rcases typed : runTyping (file.services.mapM (serviceBlocks (c.scope file false) file.package))
    with ⟨_ | bodies, referenced⟩
  · simp
  · simp only [Except.ok.injEq, Prod.mk.injEq]
    constructor
    · intro built
      refine ⟨bodies, referenced, ⟨rfl, rfl⟩, ?_⟩
      rw [← built, ← List.map_cons, ← List.map_cons, render_header, Module.AliasTable.aliasFor_eq]
    · rintro ⟨_, _, ⟨rfl, rfl⟩, rfl⟩
      rw [← List.map_cons, ← List.map_cons, render_header, Module.AliasTable.aliasFor_eq]

theorem declarations_imports (c : Catalog) (file : FileDescriptor) (text : String)
    (built : c.declarations file = .ok text) :
    ∃ body referenced,
      runTyping (declarationBody (c.scope file true) file) = (.ok body, referenced) ∧
      referenced.files.Pairwise (· < ·) ∧
      (∀ r ∈ referenced.files, r ∈ importOrder file referenced.files) ∧
      text = artifactText file
        (runtimeImport :: (importOrder file referenced.files).map (fileImport file.name))
        (render body) := by
  obtain ⟨body, referenced, typed, layout⟩ := declarations_eq_ok.mp built
  have within := declarationBody_within c file
  rw [typed] at within
  obtain ⟨sorted, recorded⟩ := within
  refine ⟨body, referenced, typed, sorted, ?_, ?_⟩
  · -- an inline scope never records its own file
    intro r member
    obtain ⟨_, _, _, notOwn⟩ := recorded r member
    exact mem_importOrder.mpr ⟨.inr member, notOwn rfl⟩
  · rw [layout, dependencyImports_eq sorted.nodup]

theorem services_imports (c : Catalog) (file : FileDescriptor) (text : String)
    (offers : file.services ≠ []) (built : c.services file = .ok text) :
    ∃ bodies referenced,
      runTyping (file.services.mapM (serviceBlocks (c.scope file false) file.package)) =
        (.ok bodies, referenced) ∧
      referenced.files.Pairwise (· < ·) ∧
      (∀ r ∈ referenced.files, r ∈ file.name :: importOrder file referenced.files) ∧
      text = artifactText file
        (runtimeImport :: importLine (Module.aliasOf file.name) (Module.relativeModule file.name) ::
          (importOrder file referenced.files).map (fileImport file.name))
        (render bodies.flatten) := by
  obtain ⟨bodies, referenced, typed, layout⟩ := (services_eq_ok offers).mp built
  have within := serviceBodies_within c file
  rw [typed] at within
  obtain ⟨sorted, _⟩ := within
  refine ⟨bodies, referenced, typed, sorted, ?_, ?_⟩
  · intro r member
    by_cases own : r = file.name
    · exact own ▸ List.mem_cons_self
    · exact List.mem_cons_of_mem _ (mem_importOrder.mpr ⟨.inr member, own⟩)
  · rw [layout, dependencyImports_eq sorted.nodup]

/-- The import lines of both artifacts of a file. After the runtime import, the declarations
artifact imports each dependency once, in order of first mention and leaving out the file itself,
then each other file that its references landed in, in increasing order; each such file is one
of those imported. The services artifact of a file with services does the same for its own
references, with the import of the file's own declarations right after the runtime import. -/
theorem artifact_import_lines (c : Catalog) (file : FileDescriptor) :
    (∀ text, c.declarations file = .ok text →
      ∃ body referenced,
        runTyping (declarationBody (c.scope file true) file) = (.ok body, referenced) ∧
        referenced.files.Pairwise (· < ·) ∧
        (∀ r ∈ referenced.files, r ∈ importOrder file referenced.files) ∧
        text = artifactText file
          (runtimeImport :: (importOrder file referenced.files).map (fileImport file.name))
          (render body)) ∧
    (∀ text, file.services ≠ [] → c.services file = .ok text →
      ∃ bodies referenced,
        runTyping (file.services.mapM (serviceBlocks (c.scope file false) file.package)) =
          (.ok bodies, referenced) ∧
        referenced.files.Pairwise (· < ·) ∧
        (∀ r ∈ referenced.files, r ∈ file.name :: importOrder file referenced.files) ∧
        text = artifactText file
          (runtimeImport :: importLine (Module.aliasOf file.name) (Module.relativeModule file.name) ::
            (importOrder file referenced.files).map (fileImport file.name))
          (render bodies.flatten)) :=
  ⟨declarations_imports c file, services_imports c file⟩

def libFile : FileDescriptor :=
  { name := "lib/b.proto", package := "lib", messages := [{ name := "M" }] }

def appFile : FileDescriptor :=
  { name := "app/a.proto", package := "app", dependencies := ["lib/b.proto", "lib/b.proto"],
    messages :=
      [{ name := "Holder", fields := [{ name := "m", number := 1, kind := .message, typeName := ".lib.M" }] }],
    services :=
      [{ name := "Api", methods := [{ name := "Call", inputType := ".app.Holder", outputType := ".lib.M" }] }] }

def sampleCatalog : Catalog :=
  ⟨ExportMap.build [libFile, appFile],
    (Module.AliasTable.empty.cache "lib/b.proto").cache "app/a.proto"⟩

theorem app_import_lines :
    (∃ text, sampleCatalog.declarations appFile = .ok text ∧
      ∃ body referenced,
        runTyping (declarationBody (sampleCatalog.scope appFile true) appFile) =
          (.ok body, referenced) ∧
        referenced.files.Pairwise (· < ·) ∧
        (∀ r ∈ referenced.files, r ∈ importOrder appFile referenced.files) ∧
        text = artifactText appFile
          (runtimeImport :: (importOrder appFile referenced.files).map (fileImport appFile.name))
          (render body)) ∧
    (∃ text, appFile.services ≠ [] ∧ sampleCatalog.services appFile = .ok text ∧
      ∃ bodies referenced,
        runTyping (appFile.services.mapM (serviceBlocks (sampleCatalog.scope appFile false)
          appFile.package)) = (.ok bodies, referenced) ∧
        referenced.files.Pairwise (· < ·) ∧
        (∀ r ∈ referenced.files, r ∈ appFile.name :: importOrder appFile referenced.files) ∧
        text = artifactText appFile
          (runtimeImport ::
            importLine (Module.aliasOf appFile.name) (Module.relativeModule appFile.name) ::
              (importOrder appFile referenced.files).map (fileImport appFile.name))
          (render bodies.flatten)) :=
  ⟨⟨_, rfl, (artifact_import_lines sampleCatalog appFile).1 _ rfl⟩,
    ⟨_, by simp [appFile], rfl,
      (artifact_import_lines sampleCatalog appFile).2 _ (by simp [appFile]) rfl⟩⟩

section Aliases

variable {files : List FileDescriptor} {c : Catalog}

theorem catalog_build_ok (built : Catalog.build files = .ok c) :
    c.symbols = ExportMap.build files ∧
      Module.AliasTable.build (files.map (·.name)) = .ok c.aliases := by
  unfold Catalog.build at built
  rcases table : Module.AliasTable.build (files.map (·.name)) with e | aliases
  · simp [table] at built
  · simp only [table] at built
    cases built
    exact ⟨rfl, table⟩

theorem records_mem_names (built : Catalog.build files = .ok c) {file : FileDescriptor}
    {inline : Bool} {r : String} (recorded : (c.scope file inline).Records r) :
    r ∈ files.map (·.name) := by
  obtain ⟨sym, member, rfl, _⟩ := recorded
  have table : c.symbols = ExportMap.build files := (catalog_build_ok built).1
  exact file_mem_of_mem_build (ExportMap.mem_build (table ▸ member))

theorem aliases_nodup (built : Catalog.build files = .ok c) {xs : List String}
    (distinct : xs.Nodup) (inSet : ∀ x ∈ xs, x ∈ files.map (·.name)) :
    (Module.runtimeAlias :: xs.map Module.aliasOf).Nodup := by
  have table := (catalog_build_ok built).2
  refine List.nodup_cons.mpr ⟨?_, ?_⟩
  · intro member
    obtain ⟨x, _, same⟩ := List.mem_map.mp member
    exact Module.aliasOf_ne_runtimeAlias x same
  · exact distinct.map_on fun x hx y hy same =>
      Module.aliasOf_injective_of_build table (inSet x hx) (inSet y hy) same

theorem importOrder_mem_names {file : FileDescriptor} {referenced : List String}
    (listed : ∀ d ∈ file.dependencies, d ∈ files.map (·.name))
    (inSet : ∀ r ∈ referenced, r ∈ files.map (·.name)) :
    ∀ x ∈ importOrder file referenced, x ∈ files.map (·.name) := by
  intro x member
  rcases (mem_importOrder.mp member).1 with dep | ref
  · exact listed x dep
  · exact inSet x ref

theorem alias_names_one (built : Catalog.build files = .ok c) {imports : List String}
    (inSet : ∀ x ∈ imports, x ∈ files.map (·.name)) {r : String} (imported : r ∈ imports) :
    ∀ x ∈ imports, Module.aliasOf x = Module.aliasOf r ↔ x = r := by
  intro x member
  constructor
  · exact Module.aliasOf_injective_of_build (catalog_build_ok built).2 (inSet x member)
      (inSet r imported)
  · rintro rfl
    rfl

/-- Over a descriptor set that names a file and all its dependencies, the aliases that the import
lines of both artifacts of the file bind are pairwise distinct, and none is the runtime's. So the
alias in front of a reference names one imported file only: the file the reference landed in. -/
theorem import_aliases_distinct (built : Catalog.build files = .ok c) {file : FileDescriptor}
    (named : file.name ∈ files.map (·.name))
    (listed : ∀ d ∈ file.dependencies, d ∈ files.map (·.name)) :
    (∀ text, c.declarations file = .ok text →
      ∃ body referenced,
        runTyping (declarationBody (c.scope file true) file) = (.ok body, referenced) ∧
        text = artifactText file
          (runtimeImport :: (importOrder file referenced.files).map (fileImport file.name))
          (render body) ∧
        (Module.runtimeAlias :: (importOrder file referenced.files).map Module.aliasOf).Nodup ∧
        ∀ r ∈ referenced.files, r ∈ importOrder file referenced.files ∧
          ∀ x ∈ importOrder file referenced.files, Module.aliasOf x = Module.aliasOf r ↔ x = r) ∧
    (∀ text, file.services ≠ [] → c.services file = .ok text →
      ∃ bodies referenced,
        runTyping (file.services.mapM (serviceBlocks (c.scope file false) file.package)) =
          (.ok bodies, referenced) ∧
        text = artifactText file
          (runtimeImport :: importLine (Module.aliasOf file.name) (Module.relativeModule file.name) ::
            (importOrder file referenced.files).map (fileImport file.name))
          (render bodies.flatten) ∧
        (Module.runtimeAlias :: Module.aliasOf file.name ::
          (importOrder file referenced.files).map Module.aliasOf).Nodup ∧
        ∀ r ∈ referenced.files, r ∈ file.name :: importOrder file referenced.files ∧
          ∀ x ∈ file.name :: importOrder file referenced.files,
            Module.aliasOf x = Module.aliasOf r ↔ x = r) := by
  constructor
  · intro text ok
    obtain ⟨body, referenced, typed, sorted, imported, layout⟩ :=
      declarations_imports c file text ok
    have recorded := (declarationBody_within c file).2
    rw [typed] at recorded
    have inSet := importOrder_mem_names listed fun r member => records_mem_names built
      (recorded r member)
    exact ⟨body, referenced, typed, layout,
      aliases_nodup built (nodup_importOrder sorted.nodup) inSet,
      fun r member => ⟨imported r member, alias_names_one built inSet (imported r member)⟩⟩
  · intro text offers ok
    obtain ⟨bodies, referenced, typed, sorted, imported, layout⟩ :=
      services_imports c file text offers ok
    have recorded := (serviceBodies_within c file).2
    rw [typed] at recorded
    -- the file itself is imported first, and `importOrder` never holds it
    have inSet : ∀ x ∈ file.name :: importOrder file referenced.files, x ∈ files.map (·.name) := by
      intro x member
      rcases List.mem_cons.mp member with rfl | later
      · exact named
      · exact importOrder_mem_names listed
          (fun r member => records_mem_names built (recorded r member)) x later
    have distinct : (file.name :: importOrder file referenced.files).Nodup :=
      List.nodup_cons.mpr ⟨fun member => (mem_importOrder.mp member).2 rfl,
        nodup_importOrder sorted.nodup⟩
    exact ⟨bodies, referenced, typed, layout, aliases_nodup built distinct inSet,
      fun r member => ⟨imported r member, alias_names_one built inSet (imported r member)⟩⟩

end Aliases

theorem app_import_aliases :
    Catalog.build [libFile, appFile] = .ok sampleCatalog ∧
    appFile.name ∈ [libFile, appFile].map (·.name) ∧
    (∀ d ∈ appFile.dependencies, d ∈ [libFile, appFile].map (·.name)) ∧
    (∃ text, sampleCatalog.declarations appFile = .ok text ∧
      ∃ body referenced,
        runTyping (declarationBody (sampleCatalog.scope appFile true) appFile) =
          (.ok body, referenced) ∧
        text = artifactText appFile
          (runtimeImport :: (importOrder appFile referenced.files).map (fileImport appFile.name))
          (render body) ∧
        (Module.runtimeAlias :: (importOrder appFile referenced.files).map Module.aliasOf).Nodup ∧
        ∀ r ∈ referenced.files, r ∈ importOrder appFile referenced.files ∧
          ∀ x ∈ importOrder appFile referenced.files, Module.aliasOf x = Module.aliasOf r ↔ x = r) ∧
    (∃ text, appFile.services ≠ [] ∧ sampleCatalog.services appFile = .ok text ∧
      ∃ bodies referenced,
        runTyping (appFile.services.mapM (serviceBlocks (sampleCatalog.scope appFile false)
          appFile.package)) = (.ok bodies, referenced) ∧
        text = artifactText appFile
          (runtimeImport ::
            importLine (Module.aliasOf appFile.name) (Module.relativeModule appFile.name) ::
              (importOrder appFile referenced.files).map (fileImport appFile.name))
          (render bodies.flatten) ∧
        (Module.runtimeAlias :: Module.aliasOf appFile.name ::
          (importOrder appFile referenced.files).map Module.aliasOf).Nodup ∧
        ∀ r ∈ referenced.files, r ∈ appFile.name :: importOrder appFile referenced.files ∧
          ∀ x ∈ appFile.name :: importOrder appFile referenced.files,
            Module.aliasOf x = Module.aliasOf r ↔ x = r) := by
  have built : Catalog.build [libFile, appFile] = .ok sampleCatalog := rfl
  have named : appFile.name ∈ [libFile, appFile].map (·.name) := by simp [appFile]
  have listed : ∀ d ∈ appFile.dependencies, d ∈ [libFile, appFile].map (·.name) := by
    simp [appFile, libFile]
  have offers : appFile.services ≠ [] := by simp [appFile]
  exact ⟨built, named, listed,
    ⟨_, rfl, (import_aliases_distinct built named listed).1 _ rfl⟩,
    ⟨_, offers, rfl, (import_aliases_distinct built named listed).2 _ offers rfl⟩⟩

end ProtoTypings.Emit
