import ProtoTypings.Proofs.LineCensus
import ProtoTypings.Proofs.Outline
import ProtoTypings.Proofs.Generation

namespace ProtoTypings.Typing

section Yields

variable {α β : Type}

theorem yields_and {P Q : α → Prop} {x : Typed α} (first : Yields x P) (second : Yields x Q) :
    Yields x fun a => P a ∧ Q a :=
  fun s a s' ran => ⟨first s a s' ran, second s a s' ran⟩

theorem yields_mapM_forall₂ {P : α → β → Prop} {f : α → Typed β} :
    ∀ {xs : List α}, (∀ x ∈ xs, Yields (f x) (P x)) → Yields (xs.mapM f) (List.Forall₂ P xs)
  | [], _ => by
    rw [List.mapM_nil]
    exact yields_pure .nil
  | x :: rest, each => by
    rw [List.mapM_cons]
    refine yields_bind (each x List.mem_cons_self) fun y head => ?_
    refine yields_bind (yields_mapM_forall₂ fun z member => each z (List.mem_cons_of_mem x member))
      fun ys tail => yields_pure (.cons head tail)

theorem yields_mapM_length {f : α → Typed β} {xs : List α} :
    Yields (xs.mapM f) fun ys => ys.length = xs.length := by
  intro s ys s' ran
  have matched :=
    @yields_mapM_forall₂ α β (fun _ _ => True) f xs (fun _ _ => yields_true) s ys s' ran
  exact matched.length_eq.symm

end Yields

end ProtoTypings.Typing

namespace ProtoTypings.Emit

open ProtoTypings.Schema
open ProtoTypings.Layout
open ProtoTypings.Typing
open ProtoTypings.Run

def lineFreeName (s : String) : Bool :=
  decide (LineFree s)

theorem lineFree_of_name {s : String} (free : lineFreeName s = true) : LineFree s :=
  of_decide_eq_true free

def servicesNamedBy (p : String → Bool) (file : FileDescriptor) : Bool :=
  file.services.all fun s => p s.name && s.methods.all fun m => p m.name

/-- A requested file whose copied texts hold no line break: those of `LineFreeSchema`, and every
name that its declarations and its services copy. -/
structure LineFreeFile (files : List FileDescriptor) (file : FileDescriptor) : Prop
    extends LineFreeSchema files file where
  names : fileNamedBy lineFreeName file = true
  serviceNames : servicesNamedBy lineFreeName file = true

theorem plain_assignment {name value : String} (nameFree : LineFree name)
    (valueFree : LineFree value) : Plain (name ++ " = " ++ value ++ ",") := by
  refine plain_comma ?_
  simp only [lineFree_append, nameFree, valueFree, and_true]
  simp [LineFree]

theorem propertyLine_plain {f : FieldDescriptor} {t : FieldType} (nameFree : LineFree f.name)
    (printable : t.Printable) : Plain (propertyLine f t) := by
  refine plain_comma ?_
  have optional : LineFree (if t.isMessage && decide (t.shape = .singular) then "?" else "") := by
    split <;> simp [LineFree]
  simp only [lineFree_append, lineFree_camelCase nameFree,
    lineFree_of_word (suffix_word t), optional, printable.objectExpr, and_true]
  simp [LineFree]

theorem importLine_plain {moduleAlias target : String}
    (free : LineFree (importLine moduleAlias target)) : Plain (importLine moduleAlias target) :=
  plain_of_head (by simp [importLine, String.toList_append]) free

theorem runtimeImport_plain : Plain runtimeImport :=
  importLine_plain (by simp [importLine, LineFree, Module.runtimeAlias, Module.runtimeModule])

theorem counted_spaced {services : Bool} {depth : Nat} {groups : List (List Step)} {c : Census}
    (backs : ∀ g ∈ groups, depthAfterSteps depth g = depth)
    (flat : Counted services depth groups.flatten c) : Counted services depth (spaced groups) c :=
  counted_flatMap_congr backs
    (fun _ _ c' inner => by simpa using counted_append counted_blank inner) flat

theorem counted_spaced_each {services : Bool} {depth : Nat} {groups : List (List Step)}
    {c : Census} (each : ∀ g ∈ groups, Counted services depth g c) :
    Counted services depth (spaced groups) (groups.length • c) :=
  counted_flatMap_each fun g member => by simpa using counted_append counted_blank (each g member)

theorem counted_spaced_singletons {α : Type} {services : Bool} {depth : Nat} {xs : List α}
    {f : α → List Step} {c : Census} (each : ∀ x ∈ xs, Counted services depth (f x) c) :
    Counted services depth (spaced (xs.map f)) (xs.length • c) := by
  have groups : ∀ g ∈ xs.map f, Counted services depth g c := by
    intro g member
    obtain ⟨x, inXs, rfl⟩ := List.mem_map.mp member
    exact each x inXs
  simpa using counted_spaced_each groups

theorem counted_trailed {services : Bool} {depth : Nat} {groups : List (List Step)} {c : Census}
    (backs : ∀ g ∈ groups, depthAfterSteps depth g = depth)
    (flat : Counted services depth groups.flatten c) :
    Counted services depth (groups.flatMap (· ++ [.blank])) c :=
  counted_flatMap_congr backs
    (fun _ _ c' inner => by simpa using counted_append inner counted_blank) flat

theorem counted_trailed_each {services : Bool} {depth : Nat} {groups : List (List Step)}
    {c : Census} (each : ∀ g ∈ groups, Counted services depth g c) :
    Counted services depth (groups.flatMap (· ++ [.blank])) (groups.length • c) :=
  counted_flatMap_each fun g member => by simpa using counted_append (each g member) counted_blank

theorem enumBlock_counted {services : Bool} {depth : Nat} {e : EnumDescriptor}
    (named : enumNamedBy lineFreeName e = true) :
    Counted services depth (enumBlock e) { enums := 1 } := by
  simp only [enumNamedBy, Bool.and_eq_true, List.all_eq_true] at named
  have body : Counted services (depth + 1) (e.values.map enumValueLine) {} :=
    counted_lines fun v member => plain_assignment (lineFree_of_name (named.2 v member))
      (lineFree_of_word (Text.intText_word v.number))
  exact counted_enumGroup String.toList_append
    (lineFree_append.mpr ⟨by simp [LineFree], lineFree_of_name named.1⟩) body

theorem oneofCaseBlock_counted {services : Bool} {depth : Nat} {o : Oneof}
    (named : LineFree o.name) (fields : ∀ f ∈ o.fields, LineFree f.name) :
    Counted services depth (oneofCaseBlock o) { enums := 1 } := by
  have notSet : Plain (Text.screamingCase o.name ++ "_NOT_SET = 0,") :=
    plain_of_last (by rw [String.toList_append]; simp)
      (lineFree_append.mpr ⟨lineFree_screamingCase named, by simp [LineFree]⟩)
  have body : Counted services (depth + 1) (.line (Text.screamingCase o.name ++ "_NOT_SET = 0,") ::
      o.fields.map fun f => .line (Text.screamingCase f.name ++ " = " ++ toString f.number ++ ","))
        {} :=
    counted_cons_line notSet (counted_lines fun f member =>
      plain_assignment (lineFree_screamingCase (fields f member))
        (lineFree_of_word (Text.intText_word f.number)))
  have split : ("export enum " ++ Text.upperCamelCase o.name ++ "Case").toList =
      "export enum ".toList ++ ((Text.upperCamelCase o.name).toList ++ "Case".toList) := by
    rw [String.toList_append, String.toList_append, List.append_assoc]
  refine counted_enumGroup split ?_ body
  simp only [lineFree_append, lineFree_upperCamelCase named, and_true]
  simp [LineFree]

theorem classBlock_counted {depth : Nat} {dialect : Dialect} {m : MessageDescriptor}
    {typed : List (FieldDescriptor × FieldType)} {oneofs : List Oneof} (named : LineFree m.name)
    (fields : ∀ p ∈ typed, LineFree p.1.name ∧ p.2.Printable)
    (cases : ∀ o ∈ oneofs, LineFree o.name) :
    Counted false depth (classBlock dialect m typed oneofs) { messageClasses := 1 } := by
  have header : (("export class " ++ m.name ++ " extends " ++ Module.runtimeAlias ++ ".Message") ++
      " \x7b").toList =
        "export class ".toList ++ m.name.toList ++ " extends jspb.Message \x7b".toList := by
    simp [String.toList_append, Module.runtimeAlias]
  have census : ({ messageClasses := 1 } : Census) =
      (kindOf (("export class " ++ m.name ++ " extends " ++ Module.runtimeAlias ++ ".Message") ++
        " \x7b").toList).census false (decide (0 < depth)) + (typed.length • {} + {} + {}) := by
    rw [header, kindOf_messageClass]
    simp [LineKind.census]
  have headerFree : LineFree ("export class " ++ m.name ++ " extends " ++ Module.runtimeAlias ++
      ".Message") := by
    simp only [lineFree_append, named, and_true]
    simp [LineFree, Module.runtimeAlias]
  rw [census, classBlock]
  -- the three parts of the body, taken from the definition's own terms
  refine counted_group headerFree (by simp [String.toList_append]) (counted_append (counted_append
    (counted_flatMap_each fun p member => ?_) (counted_lines fun o member => ?_))
    (counted_lines fun l member => plain_of_head (staticLines_headed named l member).1
      (staticLines_headed named l member).2))
  · obtain ⟨nameFree, printable⟩ := fields p member
    obtain ⟨f, t⟩ := p
    have accessors := @accessorLines_headed dialect f t (lineFree_upperCamelCase nameFree) printable
    simpa using counted_append (counted_lines fun l member =>
      plain_of_head (accessors l member).1 (accessors l member).2) counted_blank
  · refine plain_of_head (by simp [String.toList_append]) ?_
    simp only [lineFree_append, lineFree_upperCamelCase (cases o member), named, and_true]
    simp [LineFree]

theorem asObject_counted {depth : Nat} {typed : List (FieldDescriptor × FieldType)}
    (fields : ∀ p ∈ typed, LineFree p.1.name ∧ p.2.Printable) :
    Counted false depth (asObjectBlock typed) {} := by
  have other : kindOf ("export type AsObject =" ++ " \x7b").toList = .other := by
    have split : ("export type AsObject =" ++ " \x7b").toList =
        "export ".toList ++ "type AsObject = \x7b".toList := by
      simp
    rw [split]
    exact kindOf_export (by simp [List.cons_prefix_cons]) (by simp [List.cons_prefix_cons])
      (by simp [List.cons_prefix_cons])
  unfold asObjectBlock
  refine counted_group_other (by simp [LineFree]) (by simp) other (counted_lines fun p member => ?_)
  exact propertyLine_plain (fields p member).1 (fields p member).2

theorem yields_extensionBlocks_counted {scope : Scope}
    (paths : ∀ sym ∈ scope.symbols, LineFree sym.localPath) {services : Bool} {depth : Nat}
    {ext : FieldDescriptor} (named : LineFree ext.name) :
    Yields (extensionBlocks scope ext) fun steps =>
      Counted services depth steps { extensions := 1 } := by
  refine yields_bind (yields_typeRef paths _) fun extendee extendeeFree => ?_
  refine yields_bind (yields_fieldType paths ext) fun t printable => yields_pure ?_
  have doc : Plain ("/** Extends \x7b@link " ++ extendee ++ "\x7d. */") := by
    refine plain_of_head (by simp [String.toList_append]) ?_
    simp only [lineFree_append, extendeeFree, and_true]
    simp [LineFree]
  have constant : ("export const " ++ Text.camelCase ext.name ++ ": " ++ Module.runtimeAlias ++
      ".ExtensionFieldInfo<" ++ t.accessorExpr ++ ">;").toList =
        "export const ".toList ++ (Text.camelCase ext.name).toList ++
          ": jspb.ExtensionFieldInfo<".toList ++ t.accessorExpr.toList ++ ">;".toList := by
    simp [String.toList_append, Module.runtimeAlias]
  have free : LineFree ("export const " ++ Text.camelCase ext.name ++ ": " ++ Module.runtimeAlias ++
      ".ExtensionFieldInfo<" ++ t.accessorExpr ++ ">;") := by
    simp only [lineFree_append, lineFree_camelCase named, printable.accessorExpr, and_true]
    simp [LineFree, Module.runtimeAlias]
  have line := @counted_line_of_kind services depth _ free (by simp) (by rw [constant]; simp)
  rw [constant, kindOf_extension, LineKind.census] at line
  exact counted_cons_line doc line

mutual
def messageCases : MessageDescriptor → Nat
  | m@⟨_, _, nested, _, _, _, _, _⟩ =>
    if m.isMapEntry then 0 else (declaredOneofs m).length + nestedCases nested

def nestedCases : List MessageDescriptor → Nat
  | [] => 0
  | m :: rest => messageCases m + nestedCases rest
end

/-- What declarations tallied as `t`, with `cases` case enums, count: a message class per
message, an enum per enum and per case enum, an extension constant per extension. -/
def tallyCensus (t : Tally) (cases : Nat) : Census :=
  { messageClasses := t.messages, enums := t.enums + cases, extensions := t.extensions }

theorem tallyCensus_add (a b : Tally) (m n : Nat) :
    tallyCensus (a.add b) (m + n) = tallyCensus a m + tallyCensus b n := by
  ext <;> simp [tallyCensus, Tally.add]
  omega

theorem tallyCensus_message (t : Tally) (enums extensions cases n : Nat) :
    tallyCensus (Tally.add ⟨1, enums, extensions⟩ t) (cases + n) =
      { messageClasses := 1 } + (tallyCensus t n + enums • { enums := 1 } +
        extensions • { extensions := 1 } + cases • { enums := 1 }) := by
  ext <;> simp [tallyCensus, Tally.add] <;> omega

theorem mapEntry_census {m : MessageDescriptor} (entry : m.isMapEntry = true) :
    tallyCensus (messageTally m) (messageCases m) = {} := by
  obtain ⟨name, fields, nested, enums, extensions, ranges, oneofs, options⟩ := m
  rw [messageTally, messageCases, if_pos entry, if_pos entry]
  rfl

section Emitters

variable {scope : Scope}

/- A message adds its class, its enums, extensions and case enums to what its nested messages
count, exactly as a run tallies it. -/
mutual
theorem messageBlocks_counted (paths : ∀ sym ∈ scope.symbols, LineFree sym.localPath)
    (dialect : Dialect) (k : Nat) :
    ∀ m : MessageDescriptor, messageNamedBy lineFreeName m = true → m.isMapEntry = false →
      Yields (messageBlocks scope dialect m) fun steps =>
        Counted false k steps (tallyCensus (messageTally m) (messageCases m))
  | ⟨name, fields, nested, enums, extensions, ranges, oneofs, options⟩, named, notEntry => by
    let m : MessageDescriptor := ⟨name, fields, nested, enums, extensions, ranges, oneofs, options⟩
    simp only [messageNamedBy, Bool.and_eq_true, List.all_eq_true] at named
    obtain ⟨⟨⟨⟨⟨nameOk, fieldsOk⟩, nestedOk⟩, enumsOk⟩, extensionsOk⟩, oneofsOk⟩ := named
    rw [messageBlocks, messageTally, messageCases, if_neg (by simp [notEntry]),
      if_neg (by simp [notEntry])]
    refine yields_bind (yields_typeFields paths (P := fun n => lineFreeName n = true) fieldsOk)
      fun typed typedOk => ?_
    refine yields_bind (nestedBlocks_counted paths dialect (k + 1) nested nestedOk)
      fun inner ⟨innerBacks, innerOk⟩ => ?_
    refine yields_bind (yields_and yields_mapM_length (yields_mapM fun ext member =>
      @yields_extensionBlocks_counted scope paths false (k + 1) ext
        (lineFree_of_name (extensionsOk ext member)))) fun exts ⟨length, extsOk⟩ => yields_pure ?_
    have fieldsFree : ∀ p ∈ typed, LineFree p.1.name ∧ p.2.Printable := fun p member =>
      ⟨lineFree_of_name (typedOk p member).1, (typedOk p member).2⟩
    have cases : (realOneofs m).length = (declaredOneofs m).length := by
      rw [← realOneofs_names, List.length_map]
    have casesFree : ∀ o ∈ realOneofs m, LineFree o.name := fun o member =>
      lineFree_of_name (oneofsOk _ (mem_realOneofs member).1)
    have enumPart : Counted false (k + 1) (spaced (enums.map enumBlock))
        (enums.length • { enums := 1 }) :=
      counted_spaced_singletons fun e inEnums => enumBlock_counted (enumsOk e inEnums)
    have oneofPart : Counted false (k + 1) (spaced ((realOneofs m).map oneofCaseBlock))
        ((realOneofs m).length • { enums := 1 }) := by
      refine counted_spaced_singletons fun o inOneofs => ?_
      obtain ⟨_, inFields⟩ := mem_realOneofs inOneofs
      exact oneofCaseBlock_counted (casesFree o inOneofs)
        fun f member => lineFree_of_name (fieldsOk f (inFields f member))
    have body := counted_append (counted_append (counted_append
      (counted_append (@asObject_counted (k + 1) typed fieldsFree) (counted_spaced innerBacks innerOk))
        enumPart) (counted_spaced_each extsOk)) oneofPart
    have whole := counted_append
      (@classBlock_counted k dialect m typed (realOneofs m) (lineFree_of_name nameOk) fieldsFree
        casesFree)
      (counted_append counted_blank (counted_namespaceGroup (lineFree_of_name nameOk) body))
    rw [tallyCensus_message, ← length, ← cases]
    simpa using whole

theorem nestedBlocks_counted (paths : ∀ sym ∈ scope.symbols, LineFree sym.localPath)
    (dialect : Dialect) (k : Nat) :
    ∀ ms : List MessageDescriptor, nestedNamedBy lineFreeName ms = true →
      Yields (nestedBlocks scope dialect ms) fun groups =>
        (∀ g ∈ groups, depthAfterSteps k g = k) ∧
          Counted false k groups.flatten (tallyCensus (nestedTally ms) (nestedCases ms))
  | [], _ => by
    rw [nestedBlocks, nestedTally, nestedCases]
    exact yields_pure ⟨(fun _ member => nomatch member), counted_nil⟩
  | m :: rest, named => by
    simp only [nestedNamedBy, Bool.and_eq_true] at named
    rw [nestedBlocks, nestedTally, nestedCases, tallyCensus_add]
    by_cases entry : m.isMapEntry
    · -- a map entry is skipped by the emitter and brings nothing to the tally
      rw [if_pos entry, mapEntry_census entry, Census.empty_add]
      exact nestedBlocks_counted paths dialect k rest named.2
    · rw [if_neg entry]
      refine yields_bind (messageBlocks_counted paths dialect k m named.1 (by simpa using entry))
        fun here hereOk => ?_
      refine yields_bind (nestedBlocks_counted paths dialect k rest named.2)
        fun later ⟨laterBacks, laterOk⟩ => yields_pure ⟨?_, ?_⟩
      · rintro g (_ | ⟨_, later⟩)
        · exact hereOk.back
        · exact laterBacks g later
      · rw [List.flatten_cons]
        exact counted_append hereOk laterOk
end

theorem declarationBody_counted (paths : ∀ sym ∈ scope.symbols, LineFree sym.localPath)
    {file : FileDescriptor} (named : fileNamedBy lineFreeName file = true) :
    Yields (declarationBody scope file) fun body =>
      Counted false 0 body (tallyCensus (nestedTally file.messages) (nestedCases file.messages) +
        { enums := file.enums.length, extensions := file.extensions.length }) := by
  simp only [fileNamedBy, Bool.and_eq_true, List.all_eq_true] at named
  obtain ⟨⟨messagesOk, enumsOk⟩, extensionsOk⟩ := named
  unfold declarationBody
  refine yields_bind (nestedBlocks_counted paths file.dialect 0 file.messages messagesOk)
    fun groups groupsOk => ?_
  refine yields_bind (yields_and yields_mapM_length (yields_mapM fun ext member =>
    @yields_extensionBlocks_counted scope paths false 0 ext
      (lineFree_of_name (extensionsOk ext member)))) fun exts both => yields_pure ?_
  obtain ⟨length, extsOk⟩ := both
  have enumPart : Counted false 0 ((file.enums.map enumBlock).flatMap (· ++ [.blank]))
      (file.enums.length • { enums := 1 }) := by
    simpa using counted_trailed_each (List.forall_mem_map.mpr fun e member =>
      (enumBlock_counted (enumsOk e member) : Counted false 0 (enumBlock e) _))
  have whole := counted_append (counted_append (counted_trailed groupsOk.1 groupsOk.2)
    (counted_trailed_each extsOk)) enumPart
  rw [← List.flatMap_append, ← List.flatMap_append] at whole
  convert whole using 1
  ext <;> simp [tallyCensus, length]

theorem methodBlock_counted (paths : ∀ sym ∈ scope.symbols, LineFree sym.localPath)
    {depth : Nat} {service : String} {m : MethodDescriptor} (serviceFree : LineFree service)
    (named : LineFree m.name) :
    Yields (methodBlock scope service m) fun steps =>
      Counted true (depth + 1) steps { methodClasses := 1 } := by
  have flags : ∀ b, LineFree (flagText b) := by
    intro b
    cases b <;> simp [flagText, LineFree]
  refine yields_bind (yields_typeRef paths _) fun request requestFree => ?_
  refine yields_bind (yields_typeRef paths _) fun response responseFree => yields_pure ?_
  have census : classCensus (decide (0 < depth + 1)) + {} = { methodClasses := 1 } := by
    rw [decide_eq_true (Nat.succ_pos depth)]
    rfl
  rw [← census]
  refine counted_classGroup named ?_
  -- six static members, each starting with `static`
  refine counted_cons_line ?_ (counted_cons_line ?_ (counted_cons_line ?_ (counted_cons_line ?_
    (counted_cons_line ?_ (counted_cons_line ?_ counted_nil)))))
  all_goals refine plain_of_head (by simp [String.toList_append]) ?_
  all_goals (simp only [lineFree_append, named, serviceFree, flags, requestFree, responseFree,
    and_true]; simp [LineFree])

theorem serviceBlocks_counted (paths : ∀ sym ∈ scope.symbols, LineFree sym.localPath)
    {package : String} (packageFree : LineFree package) {s : ServiceDescriptor}
    (named : LineFree s.name) (methods : ∀ m ∈ s.methods, LineFree m.name) :
    Yields (serviceBlocks scope package s) fun steps =>
      Counted true 0 steps { serviceClasses := 1, methodClasses := s.methods.length } := by
  dsimp only [serviceBlocks]
  refine yields_bind (yields_and yields_mapM_length (yields_mapM fun m member =>
    @methodBlock_counted scope paths 0 s.name m named (methods m member)))
    fun classes ⟨length, each⟩ => yields_pure ?_
  have total : ({ serviceClasses := 1, methodClasses := s.methods.length } : Census) =
      classCensus (decide (0 < 0)) + {} + classes.length • { methodClasses := 1 } := by
    ext <;> simp [classCensus, length]
  have methodPart : Counted true 1 classes.flatten (classes.length • { methodClasses := 1 }) := by
    simpa using @counted_flatMap_each true 1 (List Step) classes id _ each
  have qualified : LineFree (if package.isEmpty then s.name else package ++ "." ++ s.name) := by
    split
    · exact named
    · simp only [lineFree_append, packageFree, named, and_true]
      simp [LineFree]
  rw [total]
  refine counted_append (counted_classGroup named (counted_cons_line ?_ counted_nil))
    (counted_namespaceGroup named methodPart)
  refine plain_of_head (by simp [String.toList_append]) ?_
  simp only [lineFree_append, qualified, and_true]
  simp [LineFree]

theorem services_counted {services : List ServiceDescriptor} {bodies : List (List Step)}
    (each : List.Forall₂ (fun s steps =>
      Counted true 0 steps { serviceClasses := 1, methodClasses := s.methods.length })
        services bodies) :
    Counted true 0 bodies.flatten
      { serviceClasses := services.length, methodClasses := (services.map (·.methods.length)).sum } := by
  induction each with
  | nil => exact counted_nil
  | @cons s b ss bs head _ ih =>
    have total : ({ serviceClasses := (s :: ss).length,
                    methodClasses := ((s :: ss).map (·.methods.length)).sum } : Census) =
          { serviceClasses := 1, methodClasses := s.methods.length } +
            { serviceClasses := ss.length,
              methodClasses := (ss.map (·.methods.length)).sum } := by
      ext <;> simp
      omega
    rw [total, List.flatten_cons]
    exact counted_append head ih

end Emitters

theorem scope_paths_lineFree {files : List FileDescriptor} {c : Catalog}
    (built : Catalog.build files = .ok c) (free : ∀ d ∈ walk files, LineFree d.localPath)
    (file : FileDescriptor) (inline : Bool) :
    ∀ sym ∈ (c.scope file inline).symbols, LineFree sym.localPath := by
  intro sym member
  obtain ⟨d, inWalk, rfl⟩ := mem_walk_of_scope built member
  exact free d inWalk

theorem dependencyImports_quiet {files : List FileDescriptor} {c : Catalog} {file : FileDescriptor}
    (built : Catalog.build files = .ok c) (free : LineFreeSchema files file) {inline : Bool}
    {s : ImportSet} (within : s.Within (c.scope file inline)) :
    ∀ l ∈ dependencyImports c.aliases file s.files, Quiet l := by
  intro l member
  rw [dependencyImports_eq_map] at member
  obtain ⟨x, imported, rfl⟩ := List.mem_map.mp member
  refine fileImport_quiet file.name ?_
  rcases mem_importedFiles imported with dependency | referenced
  · exact free.dependencies x dependency
  · obtain ⟨f, inSet, rfl⟩ := List.mem_map.mp (records_mem_names built (within.2 x referenced))
    exact free.fileNames f inSet

theorem dependencyImports_plain {files : List FileDescriptor} {c : Catalog}
    {file : FileDescriptor} (built : Catalog.build files = .ok c) (free : LineFreeSchema files file)
    {inline : Bool} {s : ImportSet} (within : s.Within (c.scope file inline)) :
    ∀ l ∈ dependencyImports c.aliases file s.files, Plain l := by
  intro l member
  have quiet := dependencyImports_quiet built free within l member
  rw [dependencyImports_eq_map] at member
  obtain ⟨x, _, rfl⟩ := List.mem_map.mp member
  exact importLine_plain quiet.free

theorem header_counted {services : Bool} {file : FileDescriptor} {imports : List String}
    (name : LineFree file.name) (package : LineFree file.package) (plain : ∀ l ∈ imports, Plain l) :
    Counted services 0 (headerBlocks file ++ imports.map Step.line ++ [.blank]) {} := by
  have header : Counted services 0 (headerBlocks file) {} :=
    counted_cons_line (plain_of_head (by simp [String.toList_append])
        (lineFree_append.mpr ⟨by simp [LineFree], package⟩))
      (counted_cons_line (plain_of_head (by simp [String.toList_append])
        (lineFree_append.mpr ⟨by simp [LineFree], name⟩)) counted_blank)
  simpa using counted_append (counted_append header (counted_lines plain)) counted_blank

theorem census_artifactText {services : Bool} {file : FileDescriptor} {imports : List String}
    {body : List Step} {c : Census}
    (header : Counted services 0 (headerBlocks file ++ imports.map Step.line ++ [.blank]) {})
    (counted : Counted services 0 body c) :
    census services (artifactText file imports (render body)) = c := by
  rw [← render_header, ← render_append header.back]
  have all := counted_append header counted
  rw [Census.empty_add] at all
  exact census_render all

/-- The declarations artifact of a file whose copied texts hold no line break has a message class
per message a run counts, an enum per enum it counts and per case enum, and an extension constant
per extension it counts. -/
theorem declarations_census {files : List FileDescriptor} {c : Catalog} {file : FileDescriptor}
    {text : String} (built : Catalog.build files = .ok c) (free : LineFreeFile files file)
    (written : c.declarations file = .ok text) :
    census false text =
      { messageClasses := (declarationCounts file).messages,
        enums := (declarationCounts file).enums + nestedCases file.messages,
        extensions := (declarationCounts file).extensions } := by
  obtain ⟨body, referenced, typed, layout⟩ := declarations_eq_ok.mp written
  have within := declarationBody_within c file
  rw [typed] at within
  dsimp only at within
  have header := @header_counted false file _ free.name free.package
    (List.forall_mem_cons.mpr ⟨runtimeImport_plain, dependencyImports_plain built free.toLineFreeSchema within⟩)
  have counted := declarationBody_counted (scope_paths_lineFree built free.localPaths file true)
    free.names {} body referenced typed
  rw [layout]
  refine (census_artifactText header counted).trans ?_
  ext <;> simp [tallyCensus, declarationCounts]
  omega

/-- The services artifact of a file whose copied texts hold no line break has a service class per
service and a method class per method: those a run counts. -/
theorem services_census {files : List FileDescriptor} {c : Catalog} {file : FileDescriptor}
    {text : String} (built : Catalog.build files = .ok c) (free : LineFreeFile files file)
    (written : c.services file = .ok text) :
    census true text =
      { serviceClasses := (declarationCounts file).services,
        methodClasses := (declarationCounts file).methods } := by
  by_cases offers : file.services = []
  · rw [(services_eq_empty_iff written).mpr offers]
    simp only [declarationCounts, offers, List.length_nil, List.map_nil, List.sum_nil]
    rfl
  obtain ⟨bodies, referenced, typed, layout⟩ := (services_eq_ok offers).mp written
  have within := serviceBodies_within c file
  rw [typed] at within
  dsimp only at within
  have named := free.serviceNames
  simp only [servicesNamedBy, List.all_eq_true, Bool.and_eq_true] at named
  have paths := scope_paths_lineFree built free.localPaths file false
  have each := yields_mapM_forall₂ (fun s member =>
    serviceBlocks_counted paths free.package (lineFree_of_name (named s member).1)
      fun m inMethods => lineFree_of_name ((named s member).2 m inMethods))
    {} bodies referenced typed
  -- the import of the file's own declarations breaks no line
  have own : Plain (importLine (Module.aliasOf file.name) (Module.relativeModule file.name)) := by
    refine importLine_plain ?_
    simp only [importLine, Module.relativeModule, lineFree_append,
      lineFree_of_word (Text.aliasOf_word file.name), lineFree_rootPrefix,
      lineFree_modulePath free.name, and_true]
    simp [LineFree]
  have header := @header_counted true file _ free.name free.package
    (List.forall_mem_cons.mpr ⟨runtimeImport_plain, List.forall_mem_cons.mpr
      ⟨own, dependencyImports_plain built free.toLineFreeSchema within⟩⟩)
  rw [layout]
  exact census_artifactText header (services_counted each)

end ProtoTypings.Emit
