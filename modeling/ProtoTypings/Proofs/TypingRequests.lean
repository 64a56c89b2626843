import ProtoTypings.Proofs.ImportSet
import ProtoTypings.Proofs.ImportSection

namespace ProtoTypings.Typing

open ProtoTypings.Schema

inductive Call where
  | typeRef (name : String)
  | element (value : ValueRef)
  | fieldType (field : FieldDescriptor)
deriving Repr

/-- The typing steps of a request, with its result left aside. -/
def Scope.request (scope : Scope) : Call → Typed Unit
  | .typeRef name => do let _ ← scope.typeRef name
  | .element v => do let _ ← scope.element v
  | .fieldType f => do let _ ← scope.fieldType f

def Scope.requestAll (scope : Scope) (s : ImportSet) (calls : List Call) : ImportSet :=
  calls.foldl (fun s call => (((scope.request call).run).run s).2) s

def ImportSet.insertAll (s : ImportSet) (xs : List String) : ImportSet :=
  xs.foldl ImportSet.insert s

structure Lookup where
  name : String
  typed : Bool

def valueLookups (v : ValueRef) : List Lookup :=
  match v.kind with
  | .message | .group | .enum => [⟨v.typeName, true⟩]
  | _ => []

def Scope.lookups (scope : Scope) : Call → List Lookup
  | .typeRef name => [⟨name, true⟩]
  | .element v => valueLookups v
  | .fieldType f =>
    if f.cardinality = .repeated ∧ f.kind = .message then
      ⟨f.typeName, false⟩ ::
        match scope.symbols.get? f.typeName with
        | none => []
        | some sym =>
          match sym.kind with
          | .message (some entry) => valueLookups entry.key ++ valueLookups entry.value
          | _ => valueLookups (.ofField f)
    else valueLookups (.ofField f)

def Scope.finds (scope : Scope) (l : Lookup) : Bool :=
  (scope.symbols.get? l.name).isSome

def Scope.lands (scope : Scope) (l : Lookup) : Option String :=
  match l.typed, scope.symbols.get? l.name with
  | true, some sym => if scope.inline && sym.file == scope.file then none else some sym.file
  | _, _ => none

def Scope.landed (scope : Scope) (call : Call) : List String :=
  ((scope.lookups call).takeWhile scope.finds).filterMap scope.lands

@[simp] theorem insertAll_nil (s : ImportSet) : s.insertAll [] = s := rfl

theorem insertAll_append (s : ImportSet) (xs ys : List String) :
    s.insertAll (xs ++ ys) = (s.insertAll xs).insertAll ys :=
  List.foldl_append

theorem insertAll_sorted {s : ImportSet} (sorted : s.files.Pairwise (· < ·)) (xs : List String) :
    (s.insertAll xs).files.Pairwise (· < ·) := by
  induction xs generalizing s with
  | nil => exact sorted
  | cons y rest ih => exact ih (pairwise_insertOrdered sorted)

theorem mem_insertAll {s : ImportSet} {xs : List String} {x : String} :
    x ∈ (s.insertAll xs).files ↔ x ∈ s.files ∨ x ∈ xs := by
  induction xs generalizing s with
  | nil => simp
  | cons y rest ih =>
    rw [ImportSet.insertAll, List.foldl_cons, ← ImportSet.insertAll, ih, mem_insert]
    simp only [List.mem_cons]
    tauto

theorem takeWhile_of_forall {p : Lookup → Bool} {xs : List Lookup} (all : ∀ x ∈ xs, p x = true) :
    xs.takeWhile p = xs := by
  have whole : (xs ++ []).takeWhile p = xs ++ ([] : List Lookup).takeWhile p :=
    List.takeWhile_append_of_pos all
  simpa using whole

theorem takeWhile_append_of_not_forall {p : Lookup → Bool} {xs : List Lookup} (ys : List Lookup)
    (failing : ¬ ∀ x ∈ xs, p x = true) : (xs ++ ys).takeWhile p = xs.takeWhile p := by
  induction xs with
  | nil => simp at failing
  | cons x rest ih =>
    by_cases here : p x = true
    · have later : ¬ ∀ y ∈ rest, p y = true :=
        fun all => failing (List.forall_mem_cons.mpr ⟨here, all⟩)
      rw [List.cons_append, List.takeWhile_cons_of_pos here, List.takeWhile_cons_of_pos here,
        ih later]
    · rw [List.cons_append, List.takeWhile_cons_of_neg here, List.takeWhile_cons_of_neg here]

theorem takeWhile_eq_nil_of_short {p : Lookup → Bool} {xs : List Lookup} (short : xs.length ≤ 1)
    (failing : ¬ ∀ x ∈ xs, p x = true) : xs.takeWhile p = [] := by
  match xs, short with
  | [], _ => simp at failing
  | [x], _ =>
    have missed : p x ≠ true := by simpa using failing
    exact List.takeWhile_cons_of_neg missed

theorem valueLookups_length_le (v : ValueRef) : (valueLookups v).length ≤ 1 := by
  unfold valueLookups
  split <;> simp

/-- Typing steps that make the lookups `ls` in order: they add the files those lookups land
in, up to the first that finds nothing, and they succeed exactly when every lookup finds its
symbol. -/
def Scope.Types (scope : Scope) {α : Type} (t : Typed α) (ls : List Lookup) : Prop :=
  ∀ s, ((t.run).run s).2 = s.insertAll ((ls.takeWhile scope.finds).filterMap scope.lands) ∧
    ((∃ a, ((t.run).run s).1 = .ok a) ↔ ∀ l ∈ ls, scope.finds l = true)

section Types

variable {scope : Scope} {α β : Type}

theorem types_pure (a : α) : scope.Types (pure a) [] := by
  intro s
  rw [run_pure]
  exact ⟨rfl, by simp⟩

theorem types_bind {t : Typed α} {f : α → Typed β} {ls ms : List Lookup}
    (first : scope.Types t ls) (next : ∀ a, scope.Types (f a) ms) :
    scope.Types (t >>= f) (ls ++ ms) := by
  intro s
  obtain ⟨firstState, firstOk⟩ := first s
  rw [run_bind]
  rcases ran : (t.run).run s with ⟨_ | a, s'⟩
  · -- the first steps failed at one of their lookups, so the later ones are never made
    rw [ran] at firstState firstOk
    dsimp only at firstState firstOk
    have failing : ¬ ∀ l ∈ ls, scope.finds l = true := fun all => by simpa using firstOk.mpr all
    refine ⟨by rw [takeWhile_append_of_not_forall ms failing]; exact firstState, ?_⟩
    simp only [reduceCtorEq, exists_false, false_iff]
    exact fun all => failing fun l member => all l (List.mem_append_left ms member)
  · rw [ran] at firstState firstOk
    dsimp only at firstState firstOk
    have all : ∀ l ∈ ls, scope.finds l = true := firstOk.mp ⟨a, rfl⟩
    obtain ⟨nextState, nextOk⟩ := next a s'
    refine ⟨?_, ?_⟩
    · rw [nextState, firstState, takeWhile_of_forall all, List.takeWhile_append_of_pos all,
        List.filterMap_append, insertAll_append]
    · rw [nextOk]
      simp only [List.mem_append]
      exact ⟨fun later l member => member.elim (all l) (later l),
        fun both l member => both l (.inr member)⟩

theorem types_typeRef (name : String) : scope.Types (scope.typeRef name) [⟨name, true⟩] := by
  intro s
  rw [typeRef_run]
  unfold ExportMap.resolve
  rcases found : scope.symbols.get? name with _ | sym
  · simp [Scope.finds, found]
  · have finds : scope.finds ⟨name, true⟩ = true := by simp [Scope.finds, found]
    rw [List.takeWhile_cons_of_pos finds]
    dsimp only
    split
    · rename_i own
      simp [Scope.lands, found, own, finds]
    · rename_i foreign
      simp [Scope.lands, found, foreign, finds, ImportSet.insertAll]

theorem types_resolve_bind {name : String} {f : Symbol → Typed β} {ms : Symbol → List Lookup}
    (next : ∀ sym, scope.symbols.get? name = some sym → scope.Types (f sym) (ms sym)) :
    scope.Types (scope.resolve name >>= f)
      (⟨name, false⟩ :: match scope.symbols.get? name with
        | none => []
        | some sym => ms sym) := by
  intro s
  rcases found : scope.symbols.get? name with _ | sym
  · -- the symbol is not found: the request fails here and adds nothing
    have missed : scope.finds ⟨name, false⟩ = false := by simp [Scope.finds, found]
    have cut : ∀ rest, (⟨name, false⟩ :: rest).takeWhile scope.finds = [] :=
      fun rest => List.takeWhile_cons_of_neg (by simp [missed])
    simp only [Scope.resolve, ExportMap.resolve, found, run_bind, run_throw, cut]
    simp [missed]
  · have finds : scope.finds ⟨name, false⟩ = true := by simp [Scope.finds, found]
    obtain ⟨state, ok⟩ := next sym found s
    -- reading the symbol adds nothing: the lookup is not typed
    have silent : scope.lands ⟨name, false⟩ = none := rfl
    simp only [Scope.resolve, ExportMap.resolve, found, run_bind, run_pure,
      List.takeWhile_cons_of_pos finds, List.filterMap_cons, silent, List.forall_mem_cons, finds,
      true_and]
    exact ⟨state, ok⟩

theorem types_bind_pure {t : Typed α} {g : α → β} {ls : List Lookup} (first : scope.Types t ls) :
    scope.Types (t >>= fun a => pure (g a)) ls := by
  simpa only [List.append_nil] using types_bind first fun a => types_pure (g a)

theorem types_element (v : ValueRef) : scope.Types (scope.element v) (valueLookups v) := by
  -- a reference kind types the value's type, any other kind looks nothing up
  unfold Scope.element
  split
  · rename_i kind
    rw [show valueLookups v = [⟨v.typeName, true⟩] by simp [valueLookups, kind]]
    exact types_bind_pure (types_typeRef _)
  · rename_i kind
    rw [show valueLookups v = [⟨v.typeName, true⟩] by simp [valueLookups, kind]]
    exact types_bind_pure (types_typeRef _)
  · rename_i kind
    rw [show valueLookups v = [⟨v.typeName, true⟩] by simp [valueLookups, kind]]
    exact types_bind_pure (types_typeRef _)
  · rename_i kind
    rw [show valueLookups v = [] by simp [valueLookups, kind]]
    exact types_pure _
  · rename_i notMessage notGroup notEnum _
    have none : valueLookups v = [] := by
      unfold valueLookups
      split
      · exact absurd ‹_› notMessage
      · exact absurd ‹_› notGroup
      · exact absurd ‹_› notEnum
      · rfl
    rw [none]
    exact types_pure _

theorem types_fieldType (f : FieldDescriptor) :
    scope.Types (scope.fieldType f) (scope.lookups (.fieldType f)) := by
  -- the element of a field that is not a map, reached from both branches of the map test
  have plain : scope.Types (do
      let element ← scope.element (.ofField f)
      pure (⟨element, plainShape f⟩ : FieldType)) (valueLookups (.ofField f)) :=
    types_bind_pure (types_element _)
  unfold Scope.fieldType
  simp only [Scope.lookups]
  split
  · refine types_resolve_bind fun sym _ => ?_
    rcases kind : sym.kind with (_ | entry) | _
    · exact plain
    · exact types_bind (types_element entry.key) fun _ => types_bind_pure (types_element entry.value)
    · exact plain
  · exact plain

theorem types_request (call : Call) : scope.Types (scope.request call) (scope.lookups call) := by
  cases call with
  | typeRef name => exact types_bind_pure (types_typeRef name)
  | element v => exact types_bind_pure (types_element v)
  | fieldType f => exact types_bind_pure (types_fieldType f)

end Types

section Requests

variable {scope : Scope}

theorem request_imports (call : Call) (s : ImportSet) :
    (((scope.request call).run).run s).2 = s.insertAll (scope.landed call) :=
  ((types_request call) s).1

theorem requestAll_eq (s : ImportSet) (calls : List Call) :
    scope.requestAll s calls = s.insertAll (calls.flatMap scope.landed) := by
  induction calls generalizing s with
  | nil => rfl
  | cons call rest ih =>
    rw [Scope.requestAll, List.foldl_cons, ← Scope.requestAll, ih, request_imports,
      List.flatMap_cons, insertAll_append]

theorem request_fails {call : Call} {s : ImportSet} {e : Failure}
    (failed : (((scope.request call).run).run s).1 = .error e) :
    ¬ ∀ l ∈ scope.lookups call, scope.finds l = true := by
  intro all
  obtain ⟨a, ok⟩ := ((types_request call) s).2.mpr all
  rw [failed] at ok
  cases ok

theorem landed_of_failed {call : Call} {s : ImportSet} {e : Failure}
    (failed : (((scope.request call).run).run s).1 = .error e) (notField : ∀ f, call ≠ .fieldType f) :
    scope.landed call = [] := by
  have failing := request_fails failed
  have short : (scope.lookups call).length ≤ 1 := by
    cases call with
    | typeRef name => simp [Scope.lookups]
    | element v => exact valueLookups_length_le v
    | fieldType f => exact absurd rfl (notField f)
  rw [Scope.landed, takeWhile_eq_nil_of_short short failing]
  rfl

theorem landed_of_failed_field {f : FieldDescriptor} {s : ImportSet} {e : Failure}
    (failed : (((scope.request (.fieldType f)).run).run s).1 = .error e) :
    scope.landed (.fieldType f) = [] ∨
      ∃ sym entry, scope.symbols.get? f.typeName = some sym ∧ sym.kind = .message (some entry) ∧
        scope.landed (.fieldType f) = (valueLookups entry.key).filterMap scope.lands := by
  have failing := request_fails failed
  -- a field that is not a map looks up at most its own element
  have plain : ¬ (∀ l ∈ valueLookups (.ofField f), scope.finds l = true) →
      ((valueLookups (.ofField f)).takeWhile scope.finds).filterMap scope.lands = [] := by
    intro missed
    rw [takeWhile_eq_nil_of_short (valueLookups_length_le _) missed]
    rfl
  unfold Scope.landed
  simp only [Scope.lookups] at failing ⊢
  split
  · rename_i mapTest
    rw [if_pos mapTest] at failing
    rcases found : scope.symbols.get? f.typeName with _ | sym
    · -- the type of the field is not found: the first lookup fails
      left
      have missed : scope.finds ⟨f.typeName, false⟩ = false := by simp [Scope.finds, found]
      rw [List.takeWhile_cons_of_neg (by simp [missed])]
      rfl
    · have finds : scope.finds ⟨f.typeName, false⟩ = true := by simp [Scope.finds, found]
      have silent : scope.lands ⟨f.typeName, false⟩ = none := rfl
      simp only [found, List.forall_mem_cons, finds, true_and] at failing
      rw [List.takeWhile_cons_of_pos finds, List.filterMap_cons, silent]
      dsimp only
      rcases kind : sym.kind with (_ | entry) | _
      · exact .inl (plain (by simpa [kind] using failing))
      · simp only [kind] at failing
        by_cases keyFinds : ∀ l ∈ valueLookups entry.key, scope.finds l = true
        · -- the key was typed and the value failed
          right
          have valueMissed : ¬ ∀ l ∈ valueLookups entry.value, scope.finds l = true :=
            fun valueFinds => failing fun l member =>
              (List.mem_append.mp member).elim (keyFinds l) (valueFinds l)
          refine ⟨sym, entry, rfl, kind, ?_⟩
          rw [List.takeWhile_append_of_pos keyFinds,
            takeWhile_eq_nil_of_short (valueLookups_length_le _) valueMissed, List.append_nil]
        · left
          rw [takeWhile_append_of_not_forall _ keyFinds,
            takeWhile_eq_nil_of_short (valueLookups_length_le _) keyFinds]
          rfl
      · exact .inl (plain (by simpa [kind] using failing))
  · rename_i notMap
    rw [if_neg notMap] at failing
    exact .inl (plain failing)

end Requests

theorem records_of_lands {scope : Scope} {l : Lookup} {x : String} (lands : scope.lands l = some x) :
    scope.Records x := by
  unfold Scope.lands at lands
  split at lands
  · rename_i found
    split at lands
    · cases lands
    · rename_i foreign
      cases lands
      refine ⟨_, (ExportMap.mem_of_get? found).1, rfl, fun inline same => ?_⟩
      simp [inline, same] at foreign
  · cases lands

/-- For a scope over the catalog of a descriptor set, whether inline or not and whatever its
file `F`: typing a reference that names no symbol fails with that reference and leaves the import
set as it was; one that resolves to a symbol of `F` from an inline scope is its bare local path
and adds nothing; any other is the symbol's alias and local path and adds the symbol's file.
Over any run of typing requests, the import set is what it started with together with the files
each request landed in, in order, up to its first failed lookup; so it only grows, and a run
from the empty set holds, in increasing order, only paths of the set, never `F` when inline. A
failed reference or element adds nothing; a failed field adds nothing, or only what the key of
its map entry landed in. -/
theorem typing_requests_imports {files : List FileDescriptor} {scope : Scope}
    (built : Emit.Catalog.build files = .ok ⟨scope.symbols, scope.aliases⟩) :
    (∀ name s, ((scope.typeRef name).run).run s =
      match scope.symbols.get? name with
      | none => (.error (.unresolved (stripDot name) scope.file), s)
      | some e =>
        if scope.inline = true ∧ e.file = scope.file then (.ok e.localPath, s)
        else (.ok (Module.aliasOf e.file ++ "." ++ e.localPath), s.insert e.file)) ∧
    (∀ s calls x, x ∈ (scope.requestAll s calls).files ↔
      x ∈ s.files ∨ ∃ call ∈ calls, x ∈ scope.landed call) ∧
    (∀ s calls call, (scope.requestAll s calls).files ⊆ (scope.requestAll s (calls ++ [call])).files) ∧
    (∀ calls, (scope.requestAll {} calls).files.Pairwise (· < ·) ∧
      ∀ x ∈ (scope.requestAll {} calls).files,
        x ∈ files.map (·.name) ∧ (scope.inline = true → x ≠ scope.file)) ∧
    (∀ call s e, (((scope.request call).run).run s).1 = .error e → (∀ f, call ≠ .fieldType f) →
      (((scope.request call).run).run s).2 = s) ∧
    (∀ f s e, (((scope.request (.fieldType f)).run).run s).1 = .error e →
      (((scope.request (.fieldType f)).run).run s).2 = s ∨
        ∃ sym entry, scope.symbols.get? f.typeName = some sym ∧ sym.kind = .message (some entry) ∧
          (((scope.request (.fieldType f)).run).run s).2 =
            s.insertAll ((valueLookups entry.key).filterMap scope.lands)) := by
  have table : scope.symbols = ExportMap.build files := (Emit.catalog_build_ok built).1
  -- every file a run adds is one the scope records
  have recorded : ∀ calls, ∀ x ∈ (scope.requestAll {} calls).files, scope.Records x := by
    intro calls x member
    rw [requestAll_eq, mem_insertAll] at member
    rcases member with empty | landed
    · cases empty
    · obtain ⟨call, -, inCall⟩ := List.mem_flatMap.mp landed
      obtain ⟨l, -, lands⟩ := List.mem_filterMap.mp inCall
      exact records_of_lands lands
  refine ⟨fun name s => ?_, fun s calls x => ?_, fun s calls call => ?_, fun calls => ?_,
    fun call s e failed notField => ?_, fun f s e failed => ?_⟩
  · rw [typeRef_run]
    unfold ExportMap.resolve
    rcases scope.symbols.get? name with _ | sym
    · rfl
    · simp only [Bool.and_eq_true, beq_iff_eq, Module.AliasTable.aliasFor_eq]
  · rw [requestAll_eq, mem_insertAll, List.mem_flatMap]
  · intro x member
    rw [requestAll_eq, mem_insertAll] at member ⊢
    rw [List.flatMap_append]
    exact member.imp_right (List.mem_append_left _)
  · refine ⟨?_, fun x member => ?_⟩
    · rw [requestAll_eq]
      exact insertAll_sorted List.Pairwise.nil _
    · obtain ⟨sym, inTable, rfl, notOwn⟩ := recorded calls x member
      exact ⟨file_mem_of_mem_build (ExportMap.mem_build (table ▸ inTable)), notOwn⟩
  · rw [request_imports, landed_of_failed failed notField, insertAll_nil]
  · rw [request_imports]
    rcases landed_of_failed_field failed with none | ⟨sym, entry, found, kind, keyed⟩
    · exact .inl (by rw [none, insertAll_nil])
    · exact .inr ⟨sym, entry, found, kind, by rw [keyed]⟩

def holderFiles : List FileDescriptor :=
  let entry : MessageDescriptor :=
    { name := "TagsEntry", options := some ⟨true⟩,
      fields := [{ name := "key", number := 1, kind := .string },
        { name := "value", number := 2, kind := .message, typeName := ".shared.Tag" }] }
  [{ name := "shared/tag.proto", package := "shared", messages := [{ name := "Tag" }] },
    { name := "app/holder.proto", package := "app", dependencies := ["shared/tag.proto"],
      messages := [{ name := "Holder", nested := [entry] }] }]

def holderScope : Scope :=
  { symbols := ExportMap.build holderFiles,
    aliases := (Module.AliasTable.empty.cache "shared/tag.proto").cache "app/holder.proto",
    file := "app/holder.proto", inline := true }

/-- The holder scope is built from its descriptor set, so its import set follows the laws. -/
theorem holder_requests_imports :
    Emit.Catalog.build holderFiles = .ok ⟨holderScope.symbols, holderScope.aliases⟩ ∧
    (∀ name s, ((holderScope.typeRef name).run).run s =
      match holderScope.symbols.get? name with
      | none => (.error (.unresolved (stripDot name) holderScope.file), s)
      | some e =>
        if holderScope.inline = true ∧ e.file = holderScope.file then (.ok e.localPath, s)
        else (.ok (Module.aliasOf e.file ++ "." ++ e.localPath), s.insert e.file)) ∧
    (∀ s calls x, x ∈ (holderScope.requestAll s calls).files ↔
      x ∈ s.files ∨ ∃ call ∈ calls, x ∈ holderScope.landed call) ∧
    (∀ s calls call, (holderScope.requestAll s calls).files ⊆
      (holderScope.requestAll s (calls ++ [call])).files) ∧
    (∀ calls, (holderScope.requestAll {} calls).files.Pairwise (· < ·) ∧
      ∀ x ∈ (holderScope.requestAll {} calls).files,
        x ∈ holderFiles.map (·.name) ∧ (holderScope.inline = true → x ≠ holderScope.file)) ∧
    (∀ call s e, (((holderScope.request call).run).run s).1 = .error e →
      (∀ f, call ≠ .fieldType f) → (((holderScope.request call).run).run s).2 = s) ∧
    (∀ f s e, (((holderScope.request (.fieldType f)).run).run s).1 = .error e →
      (((holderScope.request (.fieldType f)).run).run s).2 = s ∨
        ∃ sym entry, holderScope.symbols.get? f.typeName = some sym ∧
          sym.kind = .message (some entry) ∧
          (((holderScope.request (.fieldType f)).run).run s).2 =
            s.insertAll ((valueLookups entry.key).filterMap holderScope.lands)) :=
  ⟨rfl, typing_requests_imports rfl⟩

def tagsField : FieldDescriptor :=
  { name := "tags", number := 1, cardinality := .repeated, kind := .message,
    typeName := ".app.Holder.TagsEntry" }

example : holderScope.requestAll {} [.typeRef ".app.Holder", .fieldType tagsField] =
    ⟨["shared/tag.proto"]⟩ := by
  decide

end ProtoTypings.Typing
