import ProtoTypings.Proofs.LineView
import ProtoTypings.Proofs.Words
import ProtoTypings.Proofs.ImportSection

namespace ProtoTypings.Layout

theorem lineFree_of_word {s : String} (word : Text.Word s.toList) : LineFree s :=
  Text.newline_not_mem_of_word word

theorem lineFree_iff_forall {s : String} : LineFree s ↔ ∀ c ∈ s.toList, c ≠ '\n' :=
  ⟨fun free _ member same => free (same ▸ member), fun all member => all '\n' member rfl⟩

theorem ofNat_ne_newline {n : Nat} (above : 0x20 < n) : Char.ofNat n ≠ '\n' := by
  intro same
  simpa [same, Text.isSeparator] using Text.ofNat_not_separator above

theorem lineFree_camelCase {s : String} (free : LineFree s) : LineFree (Text.camelCase s) := by
  rw [lineFree_iff_forall, Text.camelCase, String.toList_ofList]
  exact Text.camelChars_forall (fun _ => ofNat_ne_newline) (lineFree_iff_forall.mp free) _ _

theorem lineFree_upperCamelCase {s : String} (free : LineFree s) :
    LineFree (Text.upperCamelCase s) := by
  rw [lineFree_iff_forall, Text.upperCamelCase, String.toList_ofList]
  exact Text.raiseHead_forall (fun _ => ofNat_ne_newline)
    (Text.camelChars_forall (fun _ => ofNat_ne_newline) (lineFree_iff_forall.mp free) _ _)

theorem lineFree_screamingCase {s : String} (free : LineFree s) :
    LineFree (Text.screamingCase s) :=
  lineFree_iff_forall.mpr
    (Text.capitalize_forall (fun _ => ofNat_ne_newline) (lineFree_iff_forall.mp free))

theorem quiet_assignment {name value : String} (word : Text.Word name.toList)
    (nonempty : name.toList ≠ []) (free : LineFree value) : Quiet (name ++ " = " ++ value ++ ",") := by
  have split : (name ++ " = " ++ value ++ ",").toList =
      name.toList ++ ' ' :: ("= ".toList ++ value.toList ++ [',']) := by
    simp [String.toList_append]
  refine quiet_of_word split nonempty (Text.space_not_mem_of_word word)
    (.inr ⟨by simp [List.cons_prefix_cons], by simp [List.cons_prefix_cons]⟩) ?_
  simp only [lineFree_append, lineFree_of_word word, free, true_and]
  simp [LineFree]

theorem quiet_label {name value : String} (word : Text.Word name.toList) (free : LineFree value) :
    Quiet (name ++ ": " ++ value) := by
  have split : (name ++ ": " ++ value).toList = (name.toList ++ [':']) ++ ' ' :: value.toList := by
    simp [String.toList_append]
  have notExport : name.toList ++ [':'] ≠ "export".toList := by
    intro same
    have last := congrArg List.getLast? same
    simp at last
  refine quiet_of_word split (by simp) ?_ (.inl notExport) ?_
  · simpa using Text.space_not_mem_of_word word
  · simp only [lineFree_append, lineFree_of_word word, free, and_true]
    simp [LineFree]

end ProtoTypings.Layout

namespace ProtoTypings.Typing

open ProtoTypings.Schema
open ProtoTypings.Layout

/-- Typing steps every result of which has a property, from whatever import set they start. -/
def Yields {α : Type} (x : Typed α) (P : α → Prop) : Prop :=
  ∀ s a s', (x.run).run s = (.ok a, s') → P a

/-- A field type whose element and map key expressions hold no line break. -/
def FieldType.Printable (t : FieldType) : Prop :=
  LineFree t.element.expr ∧ ∀ key, t.shape = .map key → LineFree key.expr

section Yields

variable {α β : Type}

theorem yields_pure {P : α → Prop} {a : α} (holds : P a) : Yields (pure a) P := by
  intro s b s' ran
  rw [run_pure] at ran
  cases ran
  exact holds

theorem yields_bind {P : α → Prop} {Q : β → Prop} {x : Typed α} {f : α → Typed β}
    (first : Yields x P) (next : ∀ a, P a → Yields (f a) Q) : Yields (x >>= f) Q := by
  intro s b s' ran
  rw [run_bind] at ran
  rcases step : (x.run).run s with ⟨_ | a, s''⟩
  · simp only [step] at ran
    cases ran
  · simp only [step] at ran
    exact next a (first s a s'' step) s'' b s' ran

theorem yields_true {x : Typed α} : Yields x fun _ => True :=
  fun _ _ _ _ => trivial

theorem yields_mapM {P : β → Prop} {f : α → Typed β} :
    ∀ {xs : List α}, (∀ x ∈ xs, Yields (f x) P) → Yields (xs.mapM f) fun ys => ∀ y ∈ ys, P y
  | [], _ => by
    rw [List.mapM_nil]
    exact yields_pure (by simp)
  | x :: rest, each => by
    rw [List.mapM_cons]
    refine yields_bind (each x List.mem_cons_self) fun y head => ?_
    refine yields_bind (yields_mapM fun z member => each z (List.mem_cons_of_mem x member))
      fun ys tail => yields_pure ?_
    simpa using ⟨head, tail⟩

variable {scope : Scope}

theorem yields_typeRef (paths : ∀ sym ∈ scope.symbols, LineFree sym.localPath)
    (name : String) : Yields (scope.typeRef name) LineFree := by
  intro s e s' typed
  obtain ⟨sym, found, own | foreign⟩ := typeRef_ok typed
  · rw [own.2.2]
    exact paths sym (ExportMap.resolve_ok found).1
  · rw [foreign.2, lineFree_append, lineFree_append]
    exact ⟨⟨lineFree_of_word (Text.aliasOf_word sym.file), by simp [LineFree]⟩,
      paths sym (ExportMap.resolve_ok found).1⟩

theorem scalarType_lineFree (kind : FieldKind) (showsString : Bool) :
    ∀ t ∈ scalarType kind showsString, LineFree t := by
  cases kind <;> cases showsString <;> simp [scalarType, bytesType, LineFree]

theorem yields_element (paths : ∀ sym ∈ scope.symbols, LineFree sym.localPath)
    (v : ValueRef) : Yields (scope.element v) fun e => LineFree e.expr := by
  have scalar : ∀ k, LineFree ((scalarType k v.showsString).getD "number") := by
    intro k
    cases typed : scalarType k v.showsString with
    | none => simp [LineFree]
    | some t => exact scalarType_lineFree k v.showsString t typed
  unfold Scope.element
  split
  · exact yields_bind (yields_typeRef paths _) fun _ free => yields_pure free
  · exact yields_bind (yields_typeRef paths _) fun _ free => yields_pure free
  · exact yields_bind (yields_typeRef paths _) fun _ free => yields_pure free
  · exact yields_pure (by simp [bytesType, LineFree])
  · exact yields_pure (scalar _)

theorem yields_fieldType (paths : ∀ sym ∈ scope.symbols, LineFree sym.localPath)
    (f : FieldDescriptor) : Yields (scope.fieldType f) FieldType.Printable := by
  -- the shape of a field that is not a map, reached from both branches of the map test
  have plain : Yields (do
      let element ← scope.element (.ofField f)
      pure (⟨element, plainShape f⟩ : FieldType)) FieldType.Printable := by
    refine yields_bind (yields_element paths _) fun e free => yields_pure ⟨free, fun key shaped => ?_⟩
    unfold plainShape at shaped
    split at shaped <;> cases shaped
  unfold Scope.fieldType
  split
  · refine yields_bind yields_true fun sym _ => ?_
    split
    · refine yields_bind (yields_element paths _) fun key keyFree => ?_
      refine yields_bind (yields_element paths _) fun value valueFree => ?_
      exact yields_pure ⟨valueFree, fun k shaped => by cases shaped; exact keyFree⟩
    · exact plain
  · exact plain

end Yields

theorem FieldType.Printable.accessorExpr {t : FieldType} (printable : t.Printable) :
    LineFree t.accessorExpr := by
  obtain ⟨element, keyed⟩ := printable
  unfold FieldType.accessorExpr
  split
  · exact element
  · simp only [lineFree_append, element, and_true]
    simp [LineFree]
  · rename_i key shaped
    simp only [lineFree_append, element, keyed key shaped, and_true]
    simp [LineFree, Module.runtimeAlias]

theorem Element.lineFree_objectExpr {e : Element} (free : LineFree e.expr) :
    LineFree e.objectExpr := by
  unfold Element.objectExpr
  split
  · exact lineFree_append.mpr ⟨free, by simp [LineFree]⟩
  · exact free

theorem FieldType.Printable.objectExpr {t : FieldType} (printable : t.Printable) :
    LineFree t.objectExpr := by
  obtain ⟨element, keyed⟩ := printable
  have object := Element.lineFree_objectExpr element
  unfold FieldType.objectExpr
  split
  · exact object
  · simp only [lineFree_append, object, and_true]
    simp [LineFree]
  · rename_i key shaped
    simp only [lineFree_append, object, keyed key shaped, and_true]
    simp [LineFree]

theorem suffix_word (t : FieldType) : Text.Word t.suffix.toList := by
  unfold FieldType.suffix
  split <;> simp [Text.Word, Text.isSeparator]

end ProtoTypings.Typing

namespace ProtoTypings.Emit

open ProtoTypings.Schema
open ProtoTypings.Layout
open ProtoTypings.Typing

theorem accessorLines_headed {dialect : Dialect} {f : FieldDescriptor} {t : FieldType}
    (single : LineFree (Text.upperCamelCase f.name)) (printable : t.Printable) :
    ∀ l ∈ accessorLines dialect f t,
      l.toList.head?.all (fun c => c != ' ' && c != 'e') = true ∧ LineFree l := by
  have suffix := lineFree_of_word (suffix_word t)
  have element := printable.1
  have full := printable.accessorExpr
  simp only [accessorLines]
  -- every accessor starts with a verb (`get`, `set`, `has`, `clear`, `add`)
  split <;> (repeat' split) <;>
    simp only [List.forall_mem_cons, List.forall_mem_append, List.not_mem_nil, IsEmpty.forall_iff,
      forall_const, and_true, true_and] <;>
    and_intros <;>
    first
    | simp [String.toList_append]
    | (simp only [lineFree_append, single, suffix, element, full, and_true]; simp [LineFree])

theorem accessorLines_quiet {dialect : Dialect} {f : FieldDescriptor} {t : FieldType}
    (single : LineFree (Text.upperCamelCase f.name)) (printable : t.Printable) :
    ∀ l ∈ accessorLines dialect f t, Quiet l := fun l member =>
  quiet_of_head (accessorLines_headed single printable l member).1
    (accessorLines_headed single printable l member).2

theorem staticLines_headed {m : MessageDescriptor} (name : LineFree m.name) :
    ∀ l ∈ staticLines m, l.toList.head?.all (fun c => c != ' ' && c != 'e') = true ∧ LineFree l := by
  simp only [staticLines]
  split <;>
    simp only [List.forall_mem_cons, List.forall_mem_append, List.not_mem_nil, IsEmpty.forall_iff,
      forall_const, and_true] <;>
    and_intros <;>
    first
    | simp [String.toList_append]
    | ((try simp only [lineFree_append, name, and_true]); simp [LineFree, Module.runtimeAlias])

theorem staticLines_quiet {m : MessageDescriptor} (name : LineFree m.name) :
    ∀ l ∈ staticLines m, Quiet l := fun l member =>
  quiet_of_head (staticLines_headed name l member).1 (staticLines_headed name l member).2

theorem propertyLine_label {f : FieldDescriptor} (t : FieldType)
    (named : Text.Word (Text.camelCase f.name).toList) :
    ∃ label, Text.Word label.toList ∧ propertyLine f t = label ++ ": " ++ (t.objectExpr ++ ",") := by
  have optional : Text.Word
      (if t.isMessage && decide (t.shape = .singular) then "?" else "").toList := by
    split <;> simp [Text.Word, Text.isSeparator]
  refine ⟨Text.camelCase f.name ++ t.suffix ++
    (if t.isMessage && decide (t.shape = .singular) then "?" else ""), ?_, ?_⟩
  · simp only [String.toList_append, Text.word_append]
    exact ⟨⟨named, suffix_word t⟩, optional⟩
  · simp [propertyLine, String.append_assoc]

theorem propertyLine_quiet {f : FieldDescriptor} {t : FieldType}
    (named : Text.Word (Text.camelCase f.name).toList) (printable : t.Printable) :
    Quiet (propertyLine f t) := by
  obtain ⟨label, word, split⟩ := propertyLine_label t named
  rw [split]
  exact quiet_label word (lineFree_append.mpr ⟨printable.objectExpr, by simp [LineFree]⟩)

theorem enumBlock_printed {depth : Nat} {e : EnumDescriptor}
    (named : Text.isIdentifier e.name = true)
    (values : ∀ v ∈ e.values, Text.isIdentifier v.name = true) :
    Printed depth (enumBlock e) [(2 * depth, e.name)] := by
  have word := (Text.word_of_isIdentifier named).1
  have header : declaredWord (("export enum " ++ e.name) ++ " \x7b").toList = some e.name := by
    have split : (("export enum " ++ e.name) ++ " \x7b").toList =
        "export enum ".toList ++ e.name.toList ++ ' ' :: "\x7b".toList := by
      simp [String.toList_append]
    rw [split, declaredWord_enum (Text.space_not_mem_of_word word), String.ofList_toList]
  refine printed_group_declaring (lineFree_append.mpr ⟨by simp [LineFree], lineFree_of_word word⟩)
    (by simp [String.toList_append]) header (printed_lines fun v member => ?_)
  obtain ⟨valueWord, nonempty⟩ := Text.word_of_isIdentifier (values v member)
  exact quiet_assignment valueWord nonempty (lineFree_of_word (Text.intText_word v.number))

theorem oneofCaseBlock_printed {depth : Nat} {o : Oneof}
    (named : Text.isIdentifier o.name = true)
    (fields : ∀ f ∈ o.fields, Text.isIdentifier f.name = true) :
    Printed depth (oneofCaseBlock o) [(2 * depth, Text.upperCamelCase o.name ++ "Case")] := by
  have word := (Text.word_of_isIdentifier named).1
  have caseWord : Text.Word (Text.upperCamelCase o.name ++ "Case").toList := by
    rw [String.toList_append, Text.word_append]
    exact ⟨Text.upperCamelCase_word word, by simp [Text.Word, Text.isSeparator]⟩
  have header : declaredWord (("export enum " ++ Text.upperCamelCase o.name ++ "Case") ++
      " \x7b").toList = some (Text.upperCamelCase o.name ++ "Case") := by
    have split : (("export enum " ++ Text.upperCamelCase o.name ++ "Case") ++ " \x7b").toList =
        "export enum ".toList ++ (Text.upperCamelCase o.name ++ "Case").toList ++
          ' ' :: "\x7b".toList := by
      simp [String.toList_append]
    rw [split, declaredWord_enum (Text.space_not_mem_of_word caseWord), String.ofList_toList]
  -- the not-set value: the screaming name with `_NOT_SET` is a word, never `export`
  have notSet : Quiet (Text.screamingCase o.name ++ "_NOT_SET = 0,") := by
    have screaming := (Text.screamingCase_word word).1
    have split : (Text.screamingCase o.name ++ "_NOT_SET = 0,").toList =
        ((Text.screamingCase o.name).toList ++ "_NOT_SET".toList) ++ ' ' :: "= 0,".toList := by
      simp [String.toList_append]
    refine quiet_of_word split (by simp) ?_ (.inr ⟨by simp [List.cons_prefix_cons],
      by simp [List.cons_prefix_cons]⟩) ?_
    · simpa using Text.space_not_mem_of_word screaming
    · exact lineFree_append.mpr ⟨lineFree_of_word screaming, by simp [LineFree]⟩
  refine printed_group_declaring ?_ (by simp [String.toList_append]) header
    (printed_cons_line notSet (printed_lines fun f member => ?_))
  · simp only [lineFree_append, lineFree_of_word (Text.upperCamelCase_word word), and_true]
    simp [LineFree]
  · obtain ⟨fieldWord, nonempty⟩ := Text.word_of_isIdentifier (fields f member)
    have screaming := Text.screamingCase_word fieldWord
    exact quiet_assignment screaming.1 (screaming.2 nonempty)
      (lineFree_of_word (Text.intText_word f.number))

theorem classBlock_printed {depth : Nat} {dialect : Dialect} {m : MessageDescriptor}
    {typed : List (FieldDescriptor × FieldType)} {oneofs : List Oneof}
    (named : Text.isIdentifier m.name = true)
    (fields : ∀ p ∈ typed, Text.isIdentifier p.1.name = true ∧ p.2.Printable)
    (cases : ∀ o ∈ oneofs, Text.isIdentifier o.name = true) :
    Printed depth (classBlock dialect m typed oneofs) [(2 * depth, m.name)] := by
  have word := (Text.word_of_isIdentifier named).1
  have header : declaredWord (("export class " ++ m.name ++ " extends " ++ Module.runtimeAlias ++
      ".Message") ++ " \x7b").toList = some m.name := by
    have split : (("export class " ++ m.name ++ " extends " ++ Module.runtimeAlias ++
        ".Message") ++ " \x7b").toList =
          "export class ".toList ++ m.name.toList ++ ' ' :: "extends jspb.Message \x7b".toList := by
      simp [String.toList_append, Module.runtimeAlias]
    rw [split, declaredWord_class (Text.space_not_mem_of_word word), String.ofList_toList]
  refine printed_group_declaring ?_ (by simp [String.toList_append]) header
    (printed_append (printed_append (printed_flatMap_quiet fun p member => ?_)
      (?_ : Printed (depth + 1) _ [])) (printed_lines (staticLines_quiet (lineFree_of_word word))))
  · simp only [lineFree_append, lineFree_of_word word, and_true]
    simp [LineFree, Module.runtimeAlias]
  · -- the accessors of one field, then a blank line
    obtain ⟨fieldNamed, printable⟩ := fields p member
    obtain ⟨f, t⟩ := p
    have upper := Text.upperCamelCase_word (Text.word_of_isIdentifier fieldNamed).1
    exact printed_append (printed_lines (accessorLines_quiet (lineFree_of_word upper) printable))
      (printed_blank (depth + 1))
  · -- one case getter per oneof
    refine printed_lines fun o member => quiet_of_head (by simp [String.toList_append]) ?_
    have upper := lineFree_of_word (Text.upperCamelCase_word
      (Text.word_of_isIdentifier (cases o member)).1)
    simp only [lineFree_append, upper, lineFree_of_word word, and_true]
    simp [LineFree]

theorem asObject_printed {depth : Nat} {typed : List (FieldDescriptor × FieldType)}
    (fields : ∀ p ∈ typed, Text.isIdentifier p.1.name = true ∧ p.2.Printable) :
    Printed depth (asObjectBlock typed) [] := by
  have header : Quiet ("export type AsObject =" ++ " \x7b") := by
    have split : ("export type AsObject =" ++ " \x7b").toList =
        "export ".toList ++ "type AsObject = \x7b".toList := by
      simp
    exact quiet_export split (by simp [List.cons_prefix_cons]) (by simp [List.cons_prefix_cons])
      (by simp [LineFree])
  unfold asObjectBlock
  refine printed_group_quiet header (printed_lines fun p member => ?_)
  obtain ⟨fieldNamed, printable⟩ := fields p member
  exact propertyLine_quiet (Text.camelCase_word (Text.word_of_isIdentifier fieldNamed).1)
    printable

theorem namespaceHeader_quiet {name : String} (named : Text.isIdentifier name = true) :
    Quiet (("export namespace " ++ name) ++ " \x7b") := by
  have split : (("export namespace " ++ name) ++ " \x7b").toList =
      "export ".toList ++ ("namespace ".toList ++ name.toList ++ " \x7b".toList) := by
    simp [String.toList_append]
  refine quiet_export split (by simp [List.cons_prefix_cons]) (by simp [List.cons_prefix_cons]) ?_
  simp only [lineFree_append, lineFree_of_word (Text.word_of_isIdentifier named).1, and_true]
  simp [LineFree]

theorem yields_extensionBlocks {scope : Scope}
    (paths : ∀ sym ∈ scope.symbols, LineFree sym.localPath) {depth : Nat}
    {ext : FieldDescriptor} (named : Text.isIdentifier ext.name = true) :
    Yields (extensionBlocks scope ext) fun blocks => Printed depth blocks [] := by
  have camel := Text.camelCase_word (Text.word_of_isIdentifier named).1
  refine yields_bind (yields_typeRef paths _) fun extendee extendeeFree => ?_
  refine yields_bind (yields_fieldType paths ext) fun t printable => yields_pure ?_
  have doc : Quiet ("/** Extends \x7b@link " ++ extendee ++ "\x7d. */") := by
    refine quiet_of_head (by simp [String.toList_append]) ?_
    simp only [lineFree_append, extendeeFree, and_true]
    simp [LineFree]
  have constant : Quiet ("export const " ++ Text.camelCase ext.name ++ ": " ++
      Module.runtimeAlias ++ ".ExtensionFieldInfo<" ++ t.accessorExpr ++ ">;") := by
    have split : ("export const " ++ Text.camelCase ext.name ++ ": " ++ Module.runtimeAlias ++
        ".ExtensionFieldInfo<" ++ t.accessorExpr ++ ">;").toList =
          "export ".toList ++ ("const ".toList ++ (Text.camelCase ext.name).toList ++
            ": jspb.ExtensionFieldInfo<".toList ++ t.accessorExpr.toList ++ ">;".toList) := by
      simp [String.toList_append, Module.runtimeAlias]
    refine quiet_export split (by simp [List.cons_prefix_cons]) (by simp [List.cons_prefix_cons]) ?_
    simp only [lineFree_append, lineFree_of_word camel, printable.accessorExpr, and_true]
    simp [LineFree, Module.runtimeAlias]
  exact printed_cons_line doc (printed_cons_line constant (printed_nil depth))

theorem printed_spaced {depth : Nat} {groups : List (List Step)}
    {found : List (List (Nat × String))} (each : List.Forall₂ (Printed depth) groups found) :
    Printed depth (spaced groups) found.flatten := by
  induction each with
  | nil => exact printed_nil depth
  | @cons g o gs os head _ ih =>
    rw [spaced, List.flatMap_cons, ← spaced, List.flatten_cons]
    exact printed_append (printed_append (printed_blank depth) head) ih

theorem printed_spaced_quiet {depth : Nat} {groups : List (List Step)}
    (each : ∀ g ∈ groups, Printed depth g []) : Printed depth (spaced groups) [] :=
  printed_flatMap_quiet fun g member => printed_append (printed_blank depth) (each g member)

theorem printed_spaced_singletons {α : Type} {depth : Nat} {xs : List α} {block : α → List Step}
    {word : α → String} (each : ∀ x ∈ xs, Printed depth (block x) [(2 * depth, word x)]) :
    Printed depth (spaced (xs.map block)) (xs.map fun x => (2 * depth, word x)) := by
  rw [spaced, List.flatMap_map, List.map_eq_flatMap]
  exact printed_flatMap fun x member => printed_append (printed_blank depth) (each x member)

theorem printed_flatMap_blank {depth : Nat} {groups : List (List Step)}
    {found : List (List (Nat × String))} (each : List.Forall₂ (Printed depth) groups found) :
    Printed depth (groups.flatMap (· ++ [.blank])) found.flatten := by
  induction each with
  | nil => exact printed_nil depth
  | @cons g o gs os head _ ih =>
    rw [List.flatMap_cons, List.flatten_cons]
    have group : Printed depth (g ++ [.blank]) o := by
      simpa using printed_append head (printed_blank depth)
    exact printed_append group ih

end ProtoTypings.Emit
