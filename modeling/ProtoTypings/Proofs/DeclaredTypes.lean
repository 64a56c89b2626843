import ProtoTypings.Proofs.Nesting
import ProtoTypings.Proofs.DeclarationCensus

namespace ProtoTypings.Layout

def declaredType? (header : String) : Option String :=
  match header.toList.dropPrefix? "export enum ".toList with
  | some name => some (String.ofList name)
  | none =>
    (header.toList.dropPrefix? "export class ".toList).bind fun rest =>
      (rest.dropSuffix? (" extends " ++ Module.runtimeAlias ++ ".Message").toList).map
        String.ofList

def namespaceOf? (header : String) : Option String :=
  (header.toList.dropPrefix? "export namespace ".toList).map String.ofList

/-- The local paths of the types that steps declare. `scopes` holds, innermost first, the path
each open block stands in: a namespace adds its name to the path around it. -/
def declaredTypes : List String → List Step → List String
  | _, [] => []
  | scopes, .opening header :: rest =>
    ((declaredType? header).map (qualify (scopes.headD ""))).toList ++
      declaredTypes (((namespaceOf? header).map (qualify (scopes.headD ""))).getD
        (scopes.headD "") :: scopes) rest
  | scopes, .closing :: rest => declaredTypes scopes.tail rest
  | scopes, .line _ :: rest => declaredTypes scopes rest
  | scopes, .blank :: rest => declaredTypes scopes rest

theorem declaredTypes_append {xs : List Step} (nested : Nested xs) :
    ∀ scopes ys, declaredTypes scopes (xs ++ ys) = declaredTypes scopes xs ++ declaredTypes scopes ys := by
  induction nested with
  | nil => intro _ _; rfl
  | line _ _ ih => exact ih
  | blank _ ih => exact ih
  | group header _ _ inner rest =>
    intro scopes ys
    rw [List.cons_append, List.append_assoc, List.cons_append]
    simp only [declaredTypes]
    rw [inner, inner]
    simp only [declaredTypes, List.tail_cons, rest, List.append_assoc]

theorem declaredTypes_enclose (scopes : List String) (header : String) {body : List Step}
    (nested : Nested body) :
    declaredTypes scopes (.opening header :: (body ++ [.closing])) =
      ((declaredType? header).map (qualify (scopes.headD ""))).toList ++
        declaredTypes (((namespaceOf? header).map (qualify (scopes.headD ""))).getD
          (scopes.headD "") :: scopes) body := by
  rw [declaredTypes, declaredTypes_append nested]
  simp [declaredTypes]

theorem declaredTypes_flat (scopes : List String) :
    ∀ {steps : List Step}, (∀ s ∈ steps, s = .blank ∨ ∃ text, s = .line text) →
      declaredTypes scopes steps = []
  | [], _ => rfl
  | s :: rest, flat => by
    have later := declaredTypes_flat scopes fun t member => flat t (List.mem_cons_of_mem s member)
    rcases flat s List.mem_cons_self with rfl | ⟨text, rfl⟩
    · exact later
    · exact later

theorem flat_lines {α : Type} {f : α → Step} (lines : ∀ x, ∃ text, f x = .line text)
    (xs : List α) : ∀ s ∈ xs.map f, s = .blank ∨ ∃ text, s = .line text := by
  intro s member
  obtain ⟨x, _, rfl⟩ := List.mem_map.mp member
  exact .inr (lines x)

theorem declaredTypes_flatMap {α : Type} {f : α → List Step} (scopes : List String) :
    ∀ {xs : List α}, (∀ x ∈ xs, Nested (f x)) →
      declaredTypes scopes (xs.flatMap f) = xs.flatMap fun x => declaredTypes scopes (f x)
  | [], _ => rfl
  | x :: rest, each => by
    rw [List.flatMap_cons, declaredTypes_append (each x List.mem_cons_self),
      declaredTypes_flatMap scopes fun y member => each y (List.mem_cons_of_mem x member),
      List.flatMap_cons]

theorem dropPrefix?_append_ne {p q rest : List Char} {a b : Char} (other : a ≠ b) :
    (p ++ a :: rest).dropPrefix? (p ++ b :: q) = none := by
  induction p with
  | nil => simp [List.dropPrefix?, other]
  | cons c p ih => simp [List.dropPrefix?, ih]

theorem dropPrefix?_of_append (p rest : List Char) : (p ++ rest).dropPrefix? p = some rest :=
  List.dropPrefix?_append_of_beq rest (beq_self_eq_true p)

theorem exportEnum_toList : "export enum ".toList = "export ".toList ++ 'e' :: "num ".toList := rfl

theorem exportClass_toList : "export class ".toList = "export ".toList ++ 'c' :: "lass ".toList :=
  rfl

theorem exportNamespace_toList :
    "export namespace ".toList = "export ".toList ++ 'n' :: "amespace ".toList := rfl

theorem enum_header (name : String) :
    declaredType? ("export enum " ++ name) = some name ∧
      namespaceOf? ("export enum " ++ name) = none := by
  have split : ("export enum " ++ name).toList =
      "export ".toList ++ 'e' :: ("num ".toList ++ name.toList) := by
    simp [String.toList_append]
  refine ⟨?_, ?_⟩
  · rw [declaredType?, String.toList_append, dropPrefix?_of_append]
    exact congrArg some String.ofList_toList
  · rw [namespaceOf?, split, exportNamespace_toList, dropPrefix?_append_ne (by decide)]
    rfl

theorem messageClass_header (name : String) :
    declaredType? ("export class " ++ name ++ " extends " ++ Module.runtimeAlias ++ ".Message") =
        some name ∧
      namespaceOf? ("export class " ++ name ++ " extends " ++ Module.runtimeAlias ++ ".Message") =
        none := by
  have split : ("export class " ++ name ++ " extends " ++ Module.runtimeAlias ++ ".Message").toList =
      "export ".toList ++ 'c' :: ("lass ".toList ++ name.toList ++
        (" extends " ++ Module.runtimeAlias ++ ".Message").toList) := by
    simp [String.toList_append]
  have rest : ("export class " ++ name ++ " extends " ++ Module.runtimeAlias ++ ".Message").toList =
      "export class ".toList ++ (name.toList ++
        (" extends " ++ Module.runtimeAlias ++ ".Message").toList) := by
    simp [String.toList_append]
  have suffix : (name.toList ++ (" extends " ++ Module.runtimeAlias ++ ".Message").toList).dropSuffix?
      (" extends " ++ Module.runtimeAlias ++ ".Message").toList = some name.toList :=
    List.dropSuffix?_eq_some_iff.mpr ⟨_, rfl, beq_self_eq_true _⟩
  refine ⟨?_, ?_⟩
  · rw [declaredType?, split, exportEnum_toList, dropPrefix?_append_ne (by decide), ← split, rest,
      dropPrefix?_of_append]
    show ((name.toList ++ (" extends " ++ Module.runtimeAlias ++ ".Message").toList).dropSuffix?
        (" extends " ++ Module.runtimeAlias ++ ".Message").toList).map String.ofList = some name
    rw [suffix]
    exact congrArg some String.ofList_toList
  · rw [namespaceOf?, split, exportNamespace_toList, dropPrefix?_append_ne (by decide)]
    rfl

theorem namespace_header (name : String) :
    declaredType? ("export namespace " ++ name) = none ∧
      namespaceOf? ("export namespace " ++ name) = some name := by
  have split : ("export namespace " ++ name).toList = "export ".toList ++ 'n' ::
      ("amespace ".toList ++ name.toList) := by
    simp [String.toList_append]
  refine ⟨?_, ?_⟩
  · rw [declaredType?, split, exportEnum_toList, dropPrefix?_append_ne (by decide),
      exportClass_toList, dropPrefix?_append_ne (by decide)]
    rfl
  · rw [namespaceOf?, String.toList_append, dropPrefix?_of_append, Option.map_some,
      String.ofList_toList]

theorem asObject_header : declaredType? "export type AsObject =" = none ∧
    namespaceOf? "export type AsObject =" = none := by
  have header : "export type AsObject =".toList = "export ".toList ++ 't' :: "ype AsObject =".toList :=
    rfl
  refine ⟨?_, ?_⟩
  · rw [declaredType?, header, exportEnum_toList, dropPrefix?_append_ne (by decide),
      exportClass_toList, dropPrefix?_append_ne (by decide)]
    rfl
  · rw [namespaceOf?, header, exportNamespace_toList, dropPrefix?_append_ne (by decide)]
    rfl

end ProtoTypings.Layout

namespace ProtoTypings.Emit

open ProtoTypings.Schema
open ProtoTypings.Layout
open ProtoTypings.Typing

mutual
def messageTypes (parent : String) : MessageDescriptor → List String
  | m@⟨name, _, nested, enums, _, _, _, _⟩ =>
    if m.isMapEntry then []
    else qualify parent name ::
      (nestedTypes (qualify parent name) nested ++
        enums.map (fun e => qualify (qualify parent name) e.name) ++
        (declaredOneofs m).map fun o => qualify (qualify parent name) (Text.upperCamelCase o ++ "Case"))

def nestedTypes (parent : String) : List MessageDescriptor → List String
  | [] => []
  | m :: rest => messageTypes parent m ++ nestedTypes parent rest
end

theorem messageTypes_of_entry {parent : String} {m : MessageDescriptor}
    (entry : m.isMapEntry = true) : messageTypes parent m = [] := by
  rcases m with ⟨name, fields, nested, enums, extensions, ranges, oneofs, options⟩
  rw [messageTypes, if_pos entry]

/-- The local paths of the types the declarations artifact of a file declares, in order. -/
def fileTypes (f : FileDescriptor) : List String :=
  nestedTypes "" f.messages ++ f.enums.map fun e => qualify "" e.name

theorem enumBlock_types (scopes : List String) (e : EnumDescriptor) :
    declaredTypes scopes (enumBlock e) = [qualify (scopes.headD "") e.name] := by
  have values : Nested (e.values.map enumValueLine) := nested_lines _ e.values
  rw [enumBlock, declaredTypes_enclose scopes _ values, (enum_header _).1, (enum_header _).2,
    declaredTypes_flat _ (flat_lines (f := enumValueLine) (fun _ => ⟨_, rfl⟩) e.values)]
  rfl

theorem oneofCaseBlock_types (scopes : List String) (o : Oneof) :
    declaredTypes scopes (oneofCaseBlock o) =
      [qualify (scopes.headD "") (Text.upperCamelCase o.name ++ "Case")] := by
  have values : Nested (.line (Text.screamingCase o.name ++ "_NOT_SET = 0,") :: o.fields.map fun f =>
      .line (Text.screamingCase f.name ++ " = " ++ toString f.number ++ ",")) :=
    .line _ (nested_lines _ o.fields)
  rw [oneofCaseBlock, declaredTypes_enclose scopes _ values, String.append_assoc,
    (enum_header _).1, (enum_header _).2, declaredTypes_flat]
  · rfl
  · rintro s (_ | ⟨_, member⟩)
    · exact .inr ⟨_, rfl⟩
    · exact flat_lines (fun _ => ⟨_, rfl⟩) o.fields s member

theorem classBlock_types (scopes : List String) (dialect : Dialect) (m : MessageDescriptor)
    (typed : List (FieldDescriptor × FieldType)) (oneofs : List Oneof) :
    declaredTypes scopes (classBlock dialect m typed oneofs) = [qualify (scopes.headD "") m.name] := by
  rw [classBlock, declaredTypes_enclose scopes _ ?nested, (messageClass_header _).1,
    (messageClass_header _).2, declaredTypes_flat]
  · rfl
  · -- the body is lines and blank lines only, so nothing in it declares a type
    intro s member
    simp only [List.mem_append, List.mem_flatMap, List.mem_map, List.mem_singleton] at member
    rcases member with ((⟨⟨f, t⟩, _, inLines | rfl⟩ | ⟨o, _, rfl⟩) | ⟨text, _, rfl⟩)
    · obtain ⟨text, _, rfl⟩ := inLines
      exact .inr ⟨text, rfl⟩
    · exact .inl rfl
    · exact .inr ⟨_, rfl⟩
    · exact .inr ⟨text, rfl⟩
  · exact ((nested_flatMap fun _ _ => (nested_lines id _).append (.blank .nil)).append
      (nested_lines _ oneofs)).append (nested_lines id _)

theorem asObjectBlock_types (scopes : List String) (typed : List (FieldDescriptor × FieldType)) :
    declaredTypes scopes (asObjectBlock typed) = [] := by
  rw [asObjectBlock, declaredTypes_enclose scopes _ (nested_lines _ typed), asObject_header.1,
    asObject_header.2, declaredTypes_flat _ ?flat]
  · rfl
  · intro s member
    obtain ⟨⟨f, t⟩, _, rfl⟩ := List.mem_map.mp member
    exact .inr ⟨_, rfl⟩

theorem declaredTypes_spaced (scopes : List String) {groups : List (List Step)}
    (nested : ∀ g ∈ groups, Nested g) :
    declaredTypes scopes (spaced groups) = groups.flatMap (declaredTypes scopes) := by
  rw [spaced, declaredTypes_flatMap scopes fun g member => .blank (nested g member)]
  rfl

theorem declaredTypes_spaced_map {α : Type} (scopes : List String) {f : α → List Step}
    (nested : ∀ x, Nested (f x)) (xs : List α) :
    declaredTypes scopes (spaced (xs.map f)) = xs.flatMap fun x => declaredTypes scopes (f x) := by
  rw [declaredTypes_spaced scopes fun g member => by
    obtain ⟨x, _, rfl⟩ := List.mem_map.mp member
    exact nested x]
  exact List.flatMap_map ..

section Emitters

variable {scope : Scope}

theorem yields_extensionBlocks_types (ext : FieldDescriptor) :
    Yields (extensionBlocks scope ext) fun steps => ∀ scopes, declaredTypes scopes steps = [] :=
  yields_bind yields_true fun _ _ => yields_bind yields_true fun _ _ => yields_pure fun _ => rfl

/- The namespace of a message is read one scope further in, at the message's own path. -/
mutual
theorem messageBlocks_types (dialect : Dialect) :
    ∀ m : MessageDescriptor, m.isMapEntry = false →
      Yields (messageBlocks scope dialect m) fun steps =>
        ∀ scopes, declaredTypes scopes steps = messageTypes (scopes.headD "") m
  | ⟨name, fields, nested, enums, extensions, ranges, oneofs, options⟩, notEntry => by
    let m : MessageDescriptor := ⟨name, fields, nested, enums, extensions, ranges, oneofs, options⟩
    rw [messageBlocks]
    refine yields_bind yields_true fun typed _ => ?_
    refine yields_bind (yields_and (nestedBlocks_nested dialect nested)
      (nestedBlocks_types dialect nested)) fun inner ⟨innerNested, innerTypes⟩ => ?_
    refine yields_bind (yields_and (yields_mapM fun ext _ => yields_extensionBlocks_nested ext)
      (yields_mapM fun ext _ => yields_extensionBlocks_types ext))
      fun exts ⟨extsNested, extsTypes⟩ => yields_pure fun scopes => ?_
    have asObject := asObjectBlock_nested typed
    have innerSpaced := nested_spaced innerNested
    have enumsSpaced := nested_spaced_map enumBlock_nested enums
    have extsSpaced := nested_spaced extsNested
    have casesSpaced := nested_spaced_map oneofCaseBlock_nested (realOneofs m)
    -- inside its namespace the scope of a message is its own path
    have inside : ∀ scopes', scopes'.headD "" = qualify (scopes.headD "") name →
        declaredTypes scopes' (asObjectBlock typed ++ spaced inner ++ spaced (enums.map enumBlock) ++
          spaced exts ++ spaced ((realOneofs m).map oneofCaseBlock)) =
        nestedTypes (qualify (scopes.headD "") name) nested ++
          enums.map (fun e => qualify (qualify (scopes.headD "") name) e.name) ++
          (declaredOneofs m).map fun o =>
            qualify (qualify (scopes.headD "") name) (Text.upperCamelCase o ++ "Case") := by
      intro scopes' head
      simp only [List.append_assoc]
      rw [declaredTypes_append asObject, declaredTypes_append innerSpaced,
        declaredTypes_append enumsSpaced, declaredTypes_append extsSpaced, asObjectBlock_types,
        declaredTypes_spaced _ innerNested, innerTypes, declaredTypes_spaced_map _ enumBlock_nested,
        declaredTypes_spaced _ extsNested, declaredTypes_spaced_map _ oneofCaseBlock_nested,
        head, ← realOneofs_names, List.map_map]
      have quiet : exts.flatMap (declaredTypes scopes') = [] :=
        List.flatMap_eq_nil_iff.mpr fun g member => extsTypes g member scopes'
      simp only [enumBlock_types, oneofCaseBlock_types, head, quiet, ← List.map_eq_flatMap,
        List.nil_append, Function.comp_def]
    rw [messageTypes, if_neg (by simpa using notEntry)]
    have opened := declaredTypes_enclose scopes ("export namespace " ++ name)
      ((((asObject.append innerSpaced).append enumsSpaced).append extsSpaced).append casesSpaced)
    rw [(namespace_header _).1, (namespace_header _).2] at opened
    rw [declaredTypes_append (classBlock_nested dialect m typed (realOneofs m)), classBlock_types]
    show [qualify (scopes.headD "") name] ++ declaredTypes scopes (.blank :: _) = _
    rw [declaredTypes, opened, inside _ rfl]
    rfl

theorem nestedBlocks_types (dialect : Dialect) :
    ∀ ms : List MessageDescriptor,
      Yields (nestedBlocks scope dialect ms) fun groups =>
        ∀ scopes, groups.flatMap (declaredTypes scopes) = nestedTypes (scopes.headD "") ms
  | [] => yields_pure fun _ => rfl
  | m :: rest => by
    rw [nestedBlocks]
    split
    · rename_i entry
      refine fun s groups s' ran scopes => ?_
      rw [nestedTypes, messageTypes_of_entry entry, List.nil_append]
      exact nestedBlocks_types dialect rest s groups s' ran scopes
    · rename_i entry
      refine yields_bind (messageBlocks_types dialect m (by simpa using entry)) fun here hereTypes => ?_
      refine yields_bind (nestedBlocks_types dialect rest) fun later laterTypes =>
        yields_pure fun scopes => ?_
      rw [List.flatMap_cons, hereTypes, laterTypes, nestedTypes]
end

theorem declaredTypes_blank_after (scopes : List String) {g : List Step} (nested : Nested g) :
    declaredTypes scopes (g ++ [.blank]) = declaredTypes scopes g := by
  rw [declaredTypes_append nested, List.append_right_eq_self]
  rfl

theorem declarationBody_types (file : FileDescriptor) :
    Yields (declarationBody scope file) fun body => declaredTypes [] body = fileTypes file := by
  unfold declarationBody
  refine yields_bind (yields_and (nestedBlocks_nested file.dialect file.messages)
    (nestedBlocks_types file.dialect file.messages)) fun groups ⟨groupsNested, groupsTypes⟩ => ?_
  refine yields_bind (yields_and (yields_mapM fun ext _ => yields_extensionBlocks_nested ext)
    (yields_mapM fun ext _ => yields_extensionBlocks_types ext))
    fun exts ⟨extsNested, extsTypes⟩ => yields_pure ?_
  have each : ∀ g ∈ groups ++ exts ++ file.enums.map enumBlock, Nested g := by
    intro g member
    rcases List.mem_append.mp member with inFirst | inEnums
    · rcases List.mem_append.mp inFirst with inGroups | inExts
      · exact groupsNested g inGroups
      · exact extsNested g inExts
    · obtain ⟨e, _, rfl⟩ := List.mem_map.mp inEnums
      exact enumBlock_nested e
  have quiet : exts.flatMap (declaredTypes []) = [] :=
    List.flatMap_eq_nil_iff.mpr fun g member => extsTypes g member []
  rw [declaredTypes_flatMap [] fun g member => (each g member).append (.blank .nil),
    List.flatMap_congr fun g member => declaredTypes_blank_after [] (each g member),
    List.flatMap_append, List.flatMap_append, groupsTypes, quiet, List.flatMap_map]
  simp only [enumBlock_types, ← List.map_eq_flatMap, List.append_nil]
  rfl

end Emitters

/-- What the declarations artifact of a file declares: it is the header and import lines, then a
body that declares the types of the file's messages outside map entries, with their nested
messages, enums and oneof case enums, and then the file's enums. -/
theorem declarations_types {c : Catalog} {file : FileDescriptor} {text : String}
    (written : c.declarations file = .ok text) :
    ∃ imports body, text = artifactText file imports (render body) ∧
      declaredTypes [] body = fileTypes file := by
  obtain ⟨body, referenced, typed, rfl⟩ := declarations_eq_ok.mp written
  exact ⟨_, body, rfl, declarationBody_types file {} body referenced typed⟩

end ProtoTypings.Emit
