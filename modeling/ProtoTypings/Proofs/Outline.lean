import ProtoTypings.Proofs.DeclarationLines
import ProtoTypings.Proofs.SymbolWalk

namespace ProtoTypings.Emit

open ProtoTypings.Schema
open ProtoTypings.Layout
open ProtoTypings.Typing

def declaredOneofs (m : MessageDescriptor) : List String :=
  (m.oneofs.zipIdx.filter fun (_, i) =>
    m.fields.any fun f => f.oneofIndex == some (i : Int) && !f.proto3Optional).map (·.1)

mutual
def messageOutline (k : Nat) : MessageDescriptor → List (Nat × String)
  | m@⟨name, _, nested, enums, _, _, _, _⟩ =>
    (2 * k, name) :: (nestedOutline (k + 1) nested ++ enums.map (fun e => (2 * k + 2, e.name)) ++
      (declaredOneofs m).map fun o => (2 * k + 2, Text.upperCamelCase o ++ "Case"))

def nestedOutline (k : Nat) : List MessageDescriptor → List (Nat × String)
  | [] => []
  | m :: rest =>
    if m.isMapEntry then nestedOutline k rest else messageOutline k m ++ nestedOutline k rest
end

/-- The declaration lines of a file: its messages, then its enums. -/
def outline (file : FileDescriptor) : List (Nat × String) :=
  nestedOutline 0 file.messages ++ file.enums.map fun e => (0, e.name)

def enumNamedBy (p : String → Bool) (e : EnumDescriptor) : Bool :=
  p e.name && e.values.all fun v => p v.name

mutual
def messageNamedBy (p : String → Bool) : MessageDescriptor → Bool
  | ⟨name, fields, nested, enums, extensions, _, oneofs, _⟩ =>
    p name && fields.all (fun f => p f.name) && nestedNamedBy p nested &&
      enums.all (enumNamedBy p) && extensions.all (fun f => p f.name) && oneofs.all p

def nestedNamedBy (p : String → Bool) : List MessageDescriptor → Bool
  | [] => true
  | m :: rest => messageNamedBy p m && nestedNamedBy p rest
end

/-- Whether every name that the declarations of a file copy passes `p`. -/
def fileNamedBy (p : String → Bool) (file : FileDescriptor) : Bool :=
  nestedNamedBy p file.messages && file.enums.all (enumNamedBy p) &&
    file.extensions.all fun f => p f.name

def fileNamed (file : FileDescriptor) : Bool :=
  fileNamedBy Text.isIdentifier file

structure LineFreeSchema (files : List FileDescriptor) (file : FileDescriptor) : Prop where
  name : LineFree file.name
  package : LineFree file.package
  dependencies : ∀ d ∈ file.dependencies, LineFree d
  fileNames : ∀ f ∈ files, LineFree f.name
  localPaths : ∀ d ∈ walk files, LineFree d.localPath

theorem enumBlock_printed_of_named {depth : Nat} {e : EnumDescriptor}
    (named : enumNamedBy Text.isIdentifier e = true) :
    Printed depth (enumBlock e) [(2 * depth, e.name)] := by
  simp only [enumNamedBy, Bool.and_eq_true, List.all_eq_true] at named
  exact enumBlock_printed named.1 named.2

theorem realOneofs_names (m : MessageDescriptor) :
    (realOneofs m).map Oneof.name = declaredOneofs m := by
  unfold realOneofs declaredOneofs
  rw [List.filter_map, List.map_map]
  congr 1
  -- a oneof keeps a field exactly when one of the message's fields is in it
  refine List.filter_congr fun ⟨name, i⟩ _ => ?_
  simp only [Function.comp_apply, ne_eq, decide_not, List.filter_eq_nil_iff]
  rw [Bool.eq_iff_iff]
  simp [List.any_eq_true]

theorem mem_realOneofs {m : MessageDescriptor} {o : Oneof} (member : o ∈ realOneofs m) :
    o.name ∈ m.oneofs ∧ ∀ f ∈ o.fields, f ∈ m.fields := by
  unfold realOneofs at member
  obtain ⟨inMapped, -⟩ := List.mem_filter.mp member
  obtain ⟨⟨name, i⟩, inZip, rfl⟩ := List.mem_map.mp inMapped
  exact ⟨List.fst_mem_of_mem_zipIdx inZip, fun f inFields => (List.mem_filter.mp inFields).1⟩

section Emitters

variable {scope : Scope}

theorem yields_typeFields (paths : ∀ sym ∈ scope.symbols, LineFree sym.localPath)
    {fields : List FieldDescriptor} {P : String → Prop} (named : ∀ f ∈ fields, P f.name) :
    Yields (typeFields scope fields) fun typed => ∀ p ∈ typed, P p.1.name ∧ p.2.Printable :=
  yields_mapM fun f member =>
    yields_bind (yields_fieldType paths f) fun _ printable => yields_pure ⟨named f member, printable⟩

/- The class of a message declares its name at its level, and everything declared inside its
namespace is one level further in. -/
mutual
theorem messageBlocks_printed (paths : ∀ sym ∈ scope.symbols, LineFree sym.localPath)
    (dialect : Dialect) (k : Nat) :
    ∀ m : MessageDescriptor, messageNamedBy Text.isIdentifier m = true →
      Yields (messageBlocks scope dialect m) fun steps => Printed k steps (messageOutline k m)
  | ⟨name, fields, nested, enums, extensions, ranges, oneofs, options⟩, named => by
    let m : MessageDescriptor := ⟨name, fields, nested, enums, extensions, ranges, oneofs, options⟩
    simp only [messageNamedBy, Bool.and_eq_true, List.all_eq_true] at named
    obtain ⟨⟨⟨⟨⟨nameOk, fieldsOk⟩, nestedOk⟩, enumsOk⟩, extensionsOk⟩, oneofsOk⟩ := named
    have two : 2 * (k + 1) = 2 * k + 2 := by omega
    rw [messageBlocks, messageOutline]
    refine yields_bind (yields_typeFields paths (P := fun n => Text.isIdentifier n = true) fieldsOk)
      fun typed typedOk => ?_
    refine yields_bind (nestedBlocks_printed paths dialect (k + 1) nested nestedOk)
      fun inner ⟨found, each, flat⟩ => ?_
    refine yields_bind (yields_mapM fun ext member =>
      @yields_extensionBlocks scope paths (k + 1) ext (extensionsOk ext member))
      fun exts extsOk => yields_pure ?_
    have casesOk : ∀ o ∈ realOneofs m, Text.isIdentifier o.name = true :=
      fun o member => oneofsOk _ (mem_realOneofs member).1
    have nestedPart : Printed (k + 1) (spaced inner) (nestedOutline (k + 1) nested) :=
      flat ▸ printed_spaced each
    have enumPart : Printed (k + 1) (spaced (enums.map enumBlock))
        (enums.map fun e => (2 * k + 2, e.name)) := by
      rw [← two]
      exact printed_spaced_singletons fun e member => enumBlock_printed_of_named (enumsOk e member)
    have oneofPart : Printed (k + 1) (spaced ((realOneofs m).map oneofCaseBlock))
        ((declaredOneofs m).map fun o => (2 * k + 2, Text.upperCamelCase o ++ "Case")) := by
      rw [← realOneofs_names, List.map_map, ← two]
      refine printed_spaced_singletons fun o member => ?_
      exact oneofCaseBlock_printed (casesOk o member)
        fun f inFields => fieldsOk f ((mem_realOneofs member).2 f inFields)
    -- the namespace: the plain-object type, then nested messages, enums, extensions and cases
    have body := printed_append (printed_append (printed_append
      (printed_append (@asObject_printed (k + 1) typed typedOk) nestedPart) enumPart)
        (printed_spaced_quiet extsOk)) oneofPart
    rw [List.nil_append, List.append_nil] at body
    exact printed_append (@classBlock_printed k dialect m typed (realOneofs m) nameOk typedOk casesOk)
      (printed_append (printed_blank k) (printed_group_quiet (namespaceHeader_quiet nameOk) body))

theorem nestedBlocks_printed (paths : ∀ sym ∈ scope.symbols, LineFree sym.localPath)
    (dialect : Dialect) (k : Nat) :
    ∀ ms : List MessageDescriptor, nestedNamedBy Text.isIdentifier ms = true →
      Yields (nestedBlocks scope dialect ms) fun groups =>
        ∃ found, List.Forall₂ (Printed k) groups found ∧ found.flatten = nestedOutline k ms
  | [], _ => yields_pure ⟨[], .nil, rfl⟩
  | m :: rest, named => by
    simp only [nestedNamedBy, Bool.and_eq_true] at named
    rw [nestedBlocks, nestedOutline]
    by_cases entry : m.isMapEntry
    · -- a map entry is skipped by the emitter and by the outline alike
      rw [if_pos entry, if_pos entry]
      exact nestedBlocks_printed paths dialect k rest named.2
    · rw [if_neg entry, if_neg entry]
      refine yields_bind (messageBlocks_printed paths dialect k m named.1) fun here printed => ?_
      refine yields_bind (nestedBlocks_printed paths dialect k rest named.2)
        fun later ⟨found, each, flat⟩ => yields_pure ?_
      exact ⟨messageOutline k m :: found, .cons printed each, by rw [List.flatten_cons, flat]⟩
end

theorem declarationBody_printed (paths : ∀ sym ∈ scope.symbols, LineFree sym.localPath)
    {file : FileDescriptor} (named : fileNamed file = true) :
    Yields (declarationBody scope file) fun body => Printed 0 body (outline file) := by
  simp only [fileNamed, fileNamedBy, Bool.and_eq_true, List.all_eq_true] at named
  obtain ⟨⟨messagesOk, enumsOk⟩, extensionsOk⟩ := named
  unfold declarationBody
  refine yields_bind (nestedBlocks_printed paths file.dialect 0 file.messages messagesOk)
    fun groups ⟨found, each, flat⟩ => ?_
  refine yields_bind (yields_mapM fun ext member =>
    @yields_extensionBlocks scope paths 0 ext (extensionsOk ext member))
    fun exts extsOk => yields_pure ?_
  have extensionPart : Printed 0 (exts.flatMap (· ++ [.blank])) [] :=
    printed_flatMap_quiet fun steps member =>
      printed_append (extsOk steps member) (printed_blank 0)
  have enumPart : Printed 0 ((file.enums.map enumBlock).flatMap (· ++ [.blank]))
      (file.enums.map fun e => (0, e.name)) := by
    rw [List.flatMap_map, List.map_eq_flatMap]
    exact printed_flatMap fun e member =>
      printed_append (enumBlock_printed_of_named (enumsOk e member)) (printed_blank 0)
  rw [List.flatMap_append, List.flatMap_append, outline, ← flat, ← List.append_nil found.flatten]
  exact printed_append (printed_append (printed_flatMap_blank each) extensionPart) enumPart

end Emitters

theorem lineFree_modulePath {path : String} (free : LineFree path) :
    LineFree (Module.modulePath path) := by
  -- the stem is a prefix of the path
  have kept : Module.stemChars path.toList <+: path.toList := by
    unfold Module.stemChars
    split
    · exact List.take_prefix _ _
    · exact List.prefix_refl _
  unfold Module.modulePath Module.stem
  refine lineFree_append.mpr ⟨?_, by simp [LineFree]⟩
  simpa [LineFree] using fun inside => free (kept.subset inside)

theorem lineFree_importTarget {path computed : String} (free : LineFree path)
    (computedFree : LineFree computed) : LineFree (Module.importTarget path computed) := by
  unfold Module.importTarget Module.wellKnownTarget?
  split
  · simp only [Option.getD_some, lineFree_append, lineFree_modulePath free, and_true]
    simp [LineFree, Module.runtimeModule]
  · exact computedFree

theorem lineFree_rootPrefix (path : String) : LineFree (Module.rootPrefix path) := by
  unfold Module.rootPrefix
  split
  · simp [LineFree]
  · simp [LineFree, String.toList_join, List.mem_replicate]

theorem fileImport_quiet (fromPath : String) {dep : String} (free : LineFree dep) :
    Quiet (fileImport fromPath dep) := by
  have target := lineFree_importTarget free
    (lineFree_append.mpr ⟨lineFree_rootPrefix fromPath, lineFree_modulePath free⟩)
  unfold fileImport importAs importLine
  refine quiet_of_head (by simp [String.toList_append]) ?_
  simp only [lineFree_append, lineFree_of_word (Text.aliasOf_word dep), target, and_true]
  simp [LineFree]

theorem mem_importedFiles {file : FileDescriptor} {referenced : List String} {x : String}
    (member : x ∈ importedFiles file referenced) : x ∈ file.dependencies ∨ x ∈ referenced := by
  unfold importedFiles at member
  rw [firstMentions_eq, List.mem_eraseDups, List.mem_filter, List.mem_append] at member
  rcases member.1 with dependency | kept
  · exact .inl dependency
  · exact .inr (List.mem_filter.mp kept).1

theorem header_printed {file : FileDescriptor} {imports : List String}
    (name : LineFree file.name) (package : LineFree file.package)
    (quiet : ∀ l ∈ imports, Quiet l) :
    Printed 0 (headerBlocks file ++ .line runtimeImport :: imports.map Step.line ++ [.blank]) [] := by
  have header : Printed 0 (headerBlocks file) [] := by
    unfold headerBlocks
    refine printed_cons_line ?_ (printed_cons_line ?_ (printed_blank 0))
    · exact quiet_of_head (by simp [String.toList_append])
        (lineFree_append.mpr ⟨by simp [LineFree], package⟩)
    · exact quiet_of_head (by simp [String.toList_append])
        (lineFree_append.mpr ⟨by simp [LineFree], name⟩)
  have runtime : Quiet runtimeImport :=
    quiet_of_head (by simp [runtimeImport, importLine, String.toList_append])
      (by simp [runtimeImport, importLine, LineFree, Module.runtimeAlias, Module.runtimeModule])
  exact printed_append (printed_append header (printed_cons_line runtime (printed_lines quiet)))
    (printed_blank 0)

/-- For a descriptor set with a catalog and a file whose printed names are identifiers and
whose copied texts hold no line break, the lines of its declarations artifact that declare a
class or an enum, after their leading spaces, are the file's outline, in order, with their
indentation and declared name. -/
theorem declarations_outline {files : List FileDescriptor} {c : Catalog} {file : FileDescriptor}
    {text : String} (built : Catalog.build files = .ok c) (named : fileNamed file = true)
    (free : LineFreeSchema files file) (written : c.declarations file = .ok text) :
    declarations text = outline file := by
  have paths : ∀ sym ∈ (c.scope file true).symbols, LineFree sym.localPath := by
    intro sym member
    obtain ⟨d, inWalk, rfl⟩ := mem_walk_of_scope built member
    exact free.localPaths d inWalk
  unfold Catalog.declarations at written
  rcases typed : runTyping (declarationBody (c.scope file true) file) with ⟨_ | body, imports⟩
  · simp [typed] at written
  · simp only [typed, Except.ok.injEq] at written
    have within := declarationBody_within c file
    rw [typed] at within
    -- every imported file is a dependency or the file of a symbol, so its path breaks no line
    have importsQuiet : ∀ l ∈ dependencyImports c.aliases file imports.files, Quiet l := by
      intro l member
      rw [dependencyImports_eq_map] at member
      obtain ⟨x, imported, rfl⟩ := List.mem_map.mp member
      refine fileImport_quiet file.name ?_
      rcases mem_importedFiles imported with dependency | referenced
      · exact free.dependencies x dependency
      · obtain ⟨f, inSet, rfl⟩ := List.mem_map.mp (records_mem_names built (within.2 x referenced))
        exact free.fileNames f inSet
    have printed := printed_append (header_printed free.name free.package importsQuiet)
      (declarationBody_printed paths named {} body imports typed)
    rw [← written, ← render_append (header_printed free.name free.package importsQuiet).back,
      declarations, splitOn_render _ printed.free, List.filterMap_append, List.filterMap_map,
      List.filterMap_cons_none declarationOf_nil, List.filterMap_nil, List.append_nil]
    exact printed.declared

def orderFile : FileDescriptor :=
  let card : FieldDescriptor :=
    { name := "card", number := 3, kind := .string, oneofIndex := some 0 }
  let note : FieldDescriptor :=
    { name := "note", number := 4, kind := .string, oneofIndex := some 1, proto3Optional := true }
  let item : FieldDescriptor :=
    { name := "item", number := 2, kind := .message, typeName := ".shop.Order.Item" }
  let itemMessage : MessageDescriptor :=
    { name := "Item", fields := [{ name := "sku", number := 1, kind := .string }] }
  let status : EnumDescriptor :=
    { name := "Status", values := [{ name := "NEW" }, { name := "PAID", number := 1 }] }
  let order : MessageDescriptor :=
    { name := "Order", fields := [item, card, note], nested := [itemMessage], enums := [status],
      oneofs := ["payment", "_note"] }
  { name := "shop/order.proto", package := "shop", messages := [order],
    enums := [{ name := "Region", values := [{ name := "EU" }] }] }

def orderCatalog : Catalog :=
  ⟨ExportMap.build [orderFile], Module.AliasTable.empty.cache "shop/order.proto"⟩

theorem order_outline :
    Catalog.build [orderFile] = .ok orderCatalog ∧ fileNamed orderFile = true ∧
      LineFreeSchema [orderFile] orderFile ∧
      ∃ text, orderCatalog.declarations orderFile = .ok text ∧
        declarations text =
          [(0, "Order"), (2, "Item"), (2, "Status"), (2, "PaymentCase"), (0, "Region")] := by
  have built : Catalog.build [orderFile] = .ok orderCatalog := rfl
  have named : fileNamed orderFile = true := by decide
  have free : LineFreeSchema [orderFile] orderFile :=
    ⟨by decide, by decide, by decide, by decide, by decide⟩
  obtain ⟨text, written⟩ : ∃ text, orderCatalog.declarations orderFile = .ok text := ⟨_, rfl⟩
  refine ⟨built, named, free, text, written, ?_⟩
  rw [declarations_outline built named free written]
  decide

def brokenPackageFile : FileDescriptor :=
  { name := "a.proto", package := "p\nexport enum Q" }

/-- A line break in the package starts a line of its own in the header, and that line declares
an enum the file does not have: the lines that declare are not the file's outline. -/
theorem package_line_break_declares :
    Catalog.build [brokenPackageFile] =
        .ok ⟨ExportMap.build [brokenPackageFile], Module.AliasTable.empty.cache "a.proto"⟩ ∧
      fileNamed brokenPackageFile = true ∧
      ∃ text, (⟨ExportMap.build [brokenPackageFile], Module.AliasTable.empty.cache "a.proto"⟩ :
          Catalog).declarations
          brokenPackageFile = .ok text ∧
        declarations text = [(0, "Q")] ∧ outline brokenPackageFile = [] := by
  refine ⟨rfl, by decide, _, rfl, ?_, rfl⟩
  decide

end ProtoTypings.Emit
