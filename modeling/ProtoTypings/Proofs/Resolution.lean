import ProtoTypings.Proofs.ImportSection

namespace ProtoTypings.Typing

open ProtoTypings.Schema

def valueRefs (v : ValueRef) : List String :=
  match v.kind with
  | .message | .group | .enum => [v.typeName]
  | _ => []

def fieldRefs (t : SymbolTable) (f : FieldDescriptor) : List String :=
  if f.cardinality = .repeated ∧ f.kind = .message then
    f.typeName ::
      match (t.get? f.typeName).map (·.kind) with
      | some (SymbolKind.message (some entry)) => valueRefs entry.key ++ valueRefs entry.value
      | _ => [f.typeName]
  else valueRefs (.ofField f)

/-- The first reference of a list that the table cannot resolve. -/
def firstUnresolved (t : SymbolTable) (refs : List String) : Option String :=
  refs.find? fun r => (t.get? r).isNone

def failureOf {α : Type} : Except Failure α → Option Failure
  | .error e => some e
  | .ok _ => none

/-- Typing steps that resolve `refs` in order against the walk `t`: from any import set they fail
exactly when one of the references names no symbol of `t`, and then with the failure naming the
first such reference and the scope's file. -/
def Scope.Resolves (scope : Scope) (t : SymbolTable) {α : Type} (x : Typed α) (refs : List String) :
    Prop :=
  ∀ s, failureOf ((x.run).run s).1 =
    (firstUnresolved t refs).map fun r => .unresolved (stripDot r) scope.file

theorem firstUnresolved_append (t : SymbolTable) (xs ys : List String) :
    firstUnresolved t (xs ++ ys) = (firstUnresolved t xs).or (firstUnresolved t ys) := by
  simp [firstUnresolved, List.find?_append]

theorem firstUnresolved_cons (t : SymbolTable) (r : String) (rest : List String) :
    firstUnresolved t (r :: rest) =
      if (t.get? r).isNone then some r else firstUnresolved t rest := by
  cases unresolved : (t.get? r).isNone <;> simp [firstUnresolved, unresolved]

section Resolves

variable {scope : Scope} {t : SymbolTable}

theorem resolves_pure {α : Type} (a : α) : scope.Resolves t (pure a) [] :=
  fun _ => rfl

theorem resolves_modify (f : ImportSet → ImportSet) : scope.Resolves t (modify f) [] :=
  fun _ => rfl

theorem resolves_bind {α β : Type} {x : Typed α} {f : α → Typed β} {xs ys : List String}
    (first : scope.Resolves t x xs) (next : ∀ a, scope.Resolves t (f a) ys) :
    scope.Resolves t (x >>= f) (xs ++ ys) := by
  intro s
  have head := first s
  rw [run_bind, firstUnresolved_append]
  rcases ran : (x.run).run s with ⟨_ | a, s'⟩ <;> rw [ran] at head
  · -- the first step failed, at the first unresolved reference of its own
    simp only [failureOf] at head
    obtain ⟨r, found, named⟩ := Option.map_eq_some_iff.mp head.symm
    simp [failureOf, found, named]
  · simp only [failureOf] at head
    have none : firstUnresolved t xs = none := Option.map_eq_none_iff.mp head.symm
    rw [none, Option.none_or]
    exact next a s'

theorem resolves_bind_pure {α β : Type} {x : Typed α} {g : α → β} {xs : List String}
    (first : scope.Resolves t x xs) : scope.Resolves t (x >>= fun a => pure (g a)) xs := by
  rw [← List.append_nil xs]
  exact resolves_bind first fun _ => resolves_pure _

theorem resolves_mapM {α β : Type} {f : α → Typed β} {refs : α → List String} :
    ∀ {xs : List α}, (∀ x ∈ xs, scope.Resolves t (f x) (refs x)) →
      scope.Resolves t (xs.mapM f) (xs.flatMap refs)
  | [], _ => resolves_pure []
  | x :: rest, each => by
    rw [List.mapM_cons, List.flatMap_cons, ← List.append_nil (List.flatMap refs rest)]
    apply resolves_bind (each x List.mem_cons_self)
    intro _
    apply resolves_bind (resolves_mapM fun y member => each y (List.mem_cons_of_mem x member))
    exact fun _ => resolves_pure _

section Lookups

/- The scope looks references up in its export map, and the references are read off the walk:
the two find the same symbol for every name. -/
variable (agree : ∀ name, scope.symbols.get? name = t.get? name)
include agree

theorem resolves_resolve_bind {β : Type} {name : String} {k : Symbol → Typed β}
    {rest : List String}
    (next : ∀ sym, t.get? name = some sym → scope.Resolves t (k sym) rest) :
    scope.Resolves t (scope.resolve name >>= k) (name :: rest) := by
  intro s
  rw [firstUnresolved_cons]
  rcases found : t.get? name with _ | sym
  · have failed : scope.resolve name = throw (.unresolved (stripDot name) scope.file) := by
      simp [Scope.resolve, ExportMap.resolve, agree name, found]
    rw [failed, run_bind, run_throw]
    simp [failureOf]
  · have hit : scope.resolve name = pure sym := by
      simp [Scope.resolve, ExportMap.resolve, agree name, found]
    rw [hit, run_bind, run_pure]
    simpa using next sym found s

theorem resolves_typeRef (name : String) : scope.Resolves t (scope.typeRef name) [name] := by
  apply resolves_resolve_bind agree
  intro sym _
  split
  · exact resolves_pure _
  · exact resolves_bind_pure (resolves_modify _)

theorem resolves_element (v : ValueRef) : scope.Resolves t (scope.element v) (valueRefs v) := by
  unfold Scope.element
  split
  · rename_i kind
    simp only [valueRefs, kind]
    exact resolves_bind (resolves_typeRef agree _) fun _ => resolves_pure _
  · rename_i kind
    simp only [valueRefs, kind]
    exact resolves_bind (resolves_typeRef agree _) fun _ => resolves_pure _
  · rename_i kind
    simp only [valueRefs, kind]
    exact resolves_bind (resolves_typeRef agree _) fun _ => resolves_pure _
  · rename_i kind
    simp only [valueRefs, kind]
    exact resolves_pure _
  · -- a scalar names nothing
    rename_i _ notMessage notGroup notEnum _
    have scalar : valueRefs v = [] := by
      unfold valueRefs
      split <;> simp_all
    rw [scalar]
    exact resolves_pure _

theorem resolves_fieldType (f : FieldDescriptor) :
    scope.Resolves t (scope.fieldType f) (fieldRefs t f) := by
  -- a field that is not a map is typed by its value alone
  have plain : scope.Resolves t (do
      let element ← scope.element (.ofField f)
      pure (⟨element, plainShape f⟩ : FieldType)) (valueRefs (.ofField f)) :=
    resolves_bind_pure (resolves_element agree _)
  unfold Scope.fieldType fieldRefs
  split
  · rename_i repeatedMessage
    have again : valueRefs (.ofField f) = [f.typeName] := by
      simp [valueRefs, ValueRef.ofField, repeatedMessage.2]
    apply resolves_resolve_bind agree
    intro sym found
    simp only [found, Option.map_some]
    split
    · -- a map entry: its key, then its value
      rename_i entry kind
      rw [kind]
      exact resolves_bind (resolves_element agree _) fun _ =>
        resolves_bind_pure (resolves_element agree _)
    · -- any other symbol: the field's own type again
      rename_i notEntry
      split
      · rename_i entry named
        exact absurd (Option.some.inj named) (notEntry entry)
      · rw [← again]
        exact plain
  · exact plain

end Lookups

end Resolves

end ProtoTypings.Typing

namespace ProtoTypings.Emit

open ProtoTypings.Schema
open ProtoTypings.Typing

def extensionRefs (t : SymbolTable) (ext : FieldDescriptor) : List String :=
  ext.extendee :: fieldRefs t ext

mutual
def messageRefs (t : SymbolTable) : MessageDescriptor → List String
  | ⟨_, fields, nested, _, extensions, _, _, _⟩ =>
    fields.flatMap (fieldRefs t) ++ nestedRefs t nested ++ extensions.flatMap (extensionRefs t)

def nestedRefs (t : SymbolTable) : List MessageDescriptor → List String
  | [] => []
  | m :: rest => if m.isMapEntry then nestedRefs t rest else messageRefs t m ++ nestedRefs t rest
end

def fileRefs (t : SymbolTable) (file : FileDescriptor) : List String :=
  nestedRefs t file.messages ++ file.extensions.flatMap (extensionRefs t)

def serviceRefs (file : FileDescriptor) : List String :=
  file.services.flatMap fun s => s.methods.flatMap fun m => [m.inputType, m.outputType]

section Emitters

variable {scope : Scope} {t : SymbolTable} (agree : ∀ name, scope.symbols.get? name = t.get? name)
include agree

theorem resolves_typeFields (fields : List FieldDescriptor) :
    scope.Resolves t (typeFields scope fields) (fields.flatMap (fieldRefs t)) :=
  resolves_mapM fun f _ => resolves_bind_pure (resolves_fieldType agree f)

theorem resolves_extensionBlocks (ext : FieldDescriptor) :
    scope.Resolves t (extensionBlocks scope ext) (extensionRefs t ext) :=
  resolves_bind (resolves_typeRef agree _) fun _ => resolves_bind_pure (resolves_fieldType agree _)

/- The nested case uses `agree` only through the message case, which the linter does not see. -/
set_option linter.unusedSectionVars false in
mutual
theorem resolves_messageBlocks (dialect : Dialect) :
    ∀ m : MessageDescriptor,
      scope.Resolves t (messageBlocks scope dialect m) (messageRefs t m)
  | ⟨_, fields, nested, _, extensions, _, _, _⟩ => by
    rw [messageBlocks, messageRefs, List.append_assoc]
    apply resolves_bind (resolves_typeFields agree fields)
    intro _
    apply resolves_bind (resolves_nestedBlocks dialect nested)
    intro _
    exact resolves_bind_pure (resolves_mapM fun ext _ => resolves_extensionBlocks agree ext)

theorem resolves_nestedBlocks (dialect : Dialect) :
    ∀ ms : List MessageDescriptor,
      scope.Resolves t (nestedBlocks scope dialect ms) (nestedRefs t ms)
  | [] => resolves_pure _
  | m :: rest => by
    rw [nestedBlocks, nestedRefs]
    by_cases entry : m.isMapEntry
    · simp only [entry, if_true]
      exact resolves_nestedBlocks dialect rest
    · simp only [entry, Bool.false_eq_true, if_false]
      apply resolves_bind (resolves_messageBlocks dialect m)
      intro _
      exact resolves_bind_pure (resolves_nestedBlocks dialect rest)
end

theorem resolves_declarationBody (file : FileDescriptor) :
    scope.Resolves t (declarationBody scope file) (fileRefs t file) := by
  apply resolves_bind (resolves_nestedBlocks agree _ _)
  intro _
  exact resolves_bind_pure (resolves_mapM fun ext _ => resolves_extensionBlocks agree ext)

theorem resolves_methodBlock (service : String) (m : MethodDescriptor) :
    scope.Resolves t (methodBlock scope service m) [m.inputType, m.outputType] :=
  resolves_bind (resolves_typeRef agree _) fun _ => resolves_bind_pure (resolves_typeRef agree _)

theorem resolves_serviceBodies (file : FileDescriptor) :
    scope.Resolves t (file.services.mapM (serviceBlocks scope file.package)) (serviceRefs file) :=
  resolves_mapM fun s _ =>
    resolves_bind_pure (resolves_mapM fun m _ => resolves_methodBlock agree s.name m)

end Emitters

theorem exists_error_iff {α : Type} {x : Except Failure α} {t : SymbolTable} {refs : List String}
    {named : String → Failure}
    (failing : ∀ e, x = .error e ↔ ∃ r, firstUnresolved t refs = some r ∧ e = named r) :
    (∃ e, x = .error e) ↔ ∃ r ∈ refs, t.get? r = none := by
  constructor
  · rintro ⟨e, failed⟩
    obtain ⟨r, first, -⟩ := (failing e).mp failed
    exact ⟨r, List.mem_of_find?_eq_some first, by simpa using List.find?_some first⟩
  · rintro ⟨r, member, unresolved⟩
    have found : (firstUnresolved t refs).isSome :=
      List.find?_isSome.mpr ⟨r, member, by simp [unresolved]⟩
    obtain ⟨first, isFirst⟩ := Option.isSome_iff_exists.mp found
    exact ⟨_, (failing _).mpr ⟨first, isFirst, rfl⟩⟩

theorem run_error_iff {α : Type} {scope : Scope} {t : SymbolTable} {x : Typed α}
    {refs : List String} (resolves : scope.Resolves t x refs) (e : Failure) :
    failureOf ((x.run).run {}).1 = some e ↔
      ∃ r, firstUnresolved t refs = some r ∧
        e = .unresolved (stripDot r) scope.file := by
  rw [resolves {}, Option.map_eq_some_iff]
  exact exists_congr fun r => and_congr_right fun _ => eq_comm

theorem declarations_eq_error {c : Catalog} {file : FileDescriptor} {e : Failure} :
    c.declarations file = .error e ↔
      failureOf (runTyping (declarationBody (c.scope file true) file)).1 = some e := by
  unfold Catalog.declarations
  rcases runTyping (declarationBody (c.scope file true) file) with ⟨_ | body, imports⟩ <;>
    simp [failureOf]

theorem services_eq_error {c : Catalog} {file : FileDescriptor} {e : Failure} :
    c.services file = .error e ↔
      failureOf (runTyping (file.services.mapM
        (serviceBlocks (c.scope file false) file.package))).1 = some e := by
  unfold Catalog.services
  split
  · rename_i none
    have empty : file.services = [] := by simpa using none
    simp [empty, runTyping, failureOf]
  · rcases runTyping (file.services.mapM (serviceBlocks (c.scope file false) file.package)) with
      ⟨_ | bodies, imports⟩ <;> simp [failureOf]

section Catalogs

variable {files : List FileDescriptor} {c : Catalog}

theorem lookups (built : Catalog.build files = .ok c) {file : FileDescriptor} {inline : Bool} :
    ∀ name, (c.scope file inline).symbols.get? name = (SymbolTable.build files).get? name := by
  intro name
  rw [Catalog.scope, (catalog_build_ok built).1, ExportMap.get?_build]

theorem declarations_error_first (built : Catalog.build files = .ok c) (file : FileDescriptor)
    (e : Failure) :
    c.declarations file = .error e ↔
      ∃ r, firstUnresolved (SymbolTable.build files)
          (fileRefs (SymbolTable.build files) file) = some r ∧
        e = .unresolved (stripDot r) file.name := by
  rw [declarations_eq_error, runTyping, run_error_iff (resolves_declarationBody (lookups built) file)]
  rfl

theorem services_error_first (built : Catalog.build files = .ok c) (file : FileDescriptor)
    (e : Failure) :
    c.services file = .error e ↔
      ∃ r, firstUnresolved (SymbolTable.build files) (serviceRefs file) = some r ∧
        e = .unresolved (stripDot r) file.name := by
  rw [services_eq_error, runTyping, run_error_iff (resolves_serviceBodies (lookups built) file)]
  rfl

/-- Over a descriptor set whose catalog is built, the declarations of any file fail exactly
when one of the references they resolve names no symbol of the set, and a failure names the
first such reference, less its leading dot, and the file. The same holds of the services, whose
references are the request and response types of their methods. -/
theorem declarations_error_iff (built : Catalog.build files = .ok c) (file : FileDescriptor) :
    ((∃ e, c.declarations file = .error e) ↔
      ∃ r ∈ fileRefs (SymbolTable.build files) file, (SymbolTable.build files).get? r = none) ∧
    (∀ e, c.declarations file = .error e ↔
      ∃ r, firstUnresolved (SymbolTable.build files)
          (fileRefs (SymbolTable.build files) file) = some r ∧
        e = .unresolved (stripDot r) file.name) ∧
    ((∃ e, c.services file = .error e) ↔
      ∃ r ∈ serviceRefs file, (SymbolTable.build files).get? r = none) ∧
    ∀ e, c.services file = .error e ↔
      ∃ r, firstUnresolved (SymbolTable.build files) (serviceRefs file) = some r ∧
        e = .unresolved (stripDot r) file.name :=
  ⟨exists_error_iff (declarations_error_first built file), declarations_error_first built file,
    exists_error_iff (services_error_first built file), services_error_first built file⟩

end Catalogs

def danglingFile : FileDescriptor :=
  let gone : FieldDescriptor := { name := "gone", number := 1, kind := .message, typeName := ".a.Gone" }
  let self : FieldDescriptor := { name := "self", number := 1, kind := .message, typeName := ".a.M" }
  { name := "a.proto", package := "a",
    messages := [{ name := "M", fields := [self], nested := [{ name := "N", fields := [gone] }] }],
    extensions := [{ name := "tag", number := 100, kind := .int32, extendee := ".a.Lost" }] }

def danglingCatalog : Catalog :=
  ⟨ExportMap.build [danglingFile], Module.AliasTable.empty.cache "a.proto"⟩

theorem dangling_reference_reported :
    Catalog.build [danglingFile] = .ok danglingCatalog ∧
      danglingCatalog.declarations danglingFile = .error (.unresolved "a.Gone" "a.proto") :=
  ⟨rfl, ((@declarations_error_iff [danglingFile] danglingCatalog rfl danglingFile).2.1 _).mpr
    ⟨".a.Gone", by decide, by decide⟩⟩

end ProtoTypings.Emit
