import Mathlib.Order.Basic
import Mathlib.Data.String.Basic
import ProtoTypings.Emit.Artifact
import ProtoTypings.Proofs.Symbols

namespace ProtoTypings.Typing

open ProtoTypings.Schema

@[simp] theorem run_pure {α : Type} (a : α) (s : ImportSet) :
    ((pure a : Typed α).run).run s = (.ok a, s) := rfl

@[simp] theorem run_throw {α : Type} (e : Failure) (s : ImportSet) :
    ((throw e : Typed α).run).run s = (.error e, s) := rfl

@[simp] theorem run_modify (f : ImportSet → ImportSet) (s : ImportSet) :
    ((modify f : Typed Unit).run).run s = (.ok (), f s) := rfl

theorem run_bind {α β : Type} (t : Typed α) (f : α → Typed β) (s : ImportSet) :
    ((t >>= f).run).run s =
      match (t.run).run s with
      | (.ok a, s') => ((f a).run).run s'
      | (.error e, s') => (.error e, s') := by
  simp only [ExceptT.run_bind, StateT.run_bind]
  rcases (t.run).run s with ⟨_ | a, s'⟩ <;> rfl

theorem typeRef_run (scope : Scope) (name : String) (s : ImportSet) :
    ((scope.typeRef name).run).run s =
      match scope.symbols.resolve name scope.file with
      | .error e => (.error e, s)
      | .ok sym =>
        if scope.inline && sym.file == scope.file then (.ok sym.localPath, s)
        else (.ok (scope.aliases.aliasFor sym.file ++ "." ++ sym.localPath), s.insert sym.file) := by
  unfold Scope.typeRef Scope.resolve
  rcases scope.symbols.resolve name scope.file with e | sym
  · rfl
  · simp only [run_bind, run_pure]
    split
    · rfl
    · simp only [run_bind, run_modify, run_pure]

theorem typeRef_ok {scope : Scope} {name e : String} {s s' : ImportSet}
    (typed : ((scope.typeRef name).run).run s = (.ok e, s')) :
    ∃ sym, scope.symbols.resolve name scope.file = .ok sym ∧
      (scope.inline = true ∧ sym.file = scope.file ∧ e = sym.localPath ∨
        ¬(scope.inline = true ∧ sym.file = scope.file) ∧
          e = Module.aliasOf sym.file ++ "." ++ sym.localPath) := by
  rw [typeRef_run] at typed
  rcases found : scope.symbols.resolve name scope.file with err | sym <;>
    simp only [found] at typed
  · cases typed
  · refine ⟨sym, rfl, ?_⟩
    have written := congrArg Prod.fst typed
    split at written
    · rename_i own
      have own : scope.inline = true ∧ sym.file = scope.file := by simpa using own
      exact .inl ⟨own.1, own.2, (Except.ok.inj written).symm⟩
    · rename_i foreign
      -- the alias the table gives is the file's own
      rw [Module.AliasTable.aliasFor_eq] at written
      exact .inr ⟨by simpa using foreign, (Except.ok.inj written).symm⟩

/-- Typing steps keep a property of the import set: from a set that has it they end in a set that
has it, whether they succeed or fail. -/
def Keeps (inv : ImportSet → Prop) {α : Type} (t : Typed α) : Prop :=
  ∀ s, inv s → inv ((t.run).run s).2

/-- The files a scope adds to an import set: the declaring files of the table's symbols, other than
the scope's own file when the scope is inline. -/
def Scope.Records (scope : Scope) (x : String) : Prop :=
  ∃ sym ∈ scope.symbols, sym.file = x ∧ (scope.inline = true → x ≠ scope.file)

def Scope.Preserves (scope : Scope) (inv : ImportSet → Prop) : Prop :=
  ∀ s x, inv s → scope.Records x → inv (s.insert x)

section Keeps

variable {inv : ImportSet → Prop}

theorem keeps_pure {α : Type} (a : α) : Keeps inv (pure a) :=
  fun _ h => h

theorem keeps_bind {α β : Type} {t : Typed α} {f : α → Typed β}
    (first : Keeps inv t) (next : ∀ a, Keeps inv (f a)) : Keeps inv (t >>= f) := by
  intro s h
  have after := first s h
  rw [run_bind]
  rcases ran : (t.run).run s with ⟨_ | a, s'⟩
  · simpa [ran] using after
  · simp only [ran] at after ⊢
    exact next a s' after

theorem keeps_mapM {α β : Type} {f : α → Typed β} :
    ∀ {xs : List α}, (∀ x ∈ xs, Keeps inv (f x)) → Keeps inv (xs.mapM f)
  | [], _ => keeps_pure []
  | x :: rest, each => by
    rw [List.mapM_cons]
    apply keeps_bind (each x List.mem_cons_self)
    intro _
    apply keeps_bind (keeps_mapM fun y member => each y (List.mem_cons_of_mem x member))
    exact fun _ => keeps_pure _

variable {scope : Scope}

theorem resolve_keeps (name : String) : Keeps inv (scope.resolve name) := by
  unfold Scope.resolve
  split <;> exact fun _ h => h

theorem typeRef_keeps (keep : scope.Preserves inv) (name : String) :
    Keeps inv (scope.typeRef name) := by
  intro s h
  rw [typeRef_run]
  rcases found : scope.symbols.resolve name scope.file with e | sym
  · exact h
  · dsimp only
    split
    · exact h
    · rename_i foreign
      apply keep s sym.file h
      refine ⟨sym, (ExportMap.resolve_ok found).1, rfl, ?_⟩
      intro inline same
      simp [inline, same] at foreign

theorem element_keeps (keep : scope.Preserves inv) (v : ValueRef) :
    Keeps inv (scope.element v) := by
  unfold Scope.element
  split
  · exact keeps_bind (typeRef_keeps keep _) fun _ => keeps_pure _
  · exact keeps_bind (typeRef_keeps keep _) fun _ => keeps_pure _
  · exact keeps_bind (typeRef_keeps keep _) fun _ => keeps_pure _
  · exact keeps_pure _
  · exact keeps_pure _

theorem fieldType_keeps (keep : scope.Preserves inv) (f : FieldDescriptor) :
    Keeps inv (scope.fieldType f) := by
  -- the shape of a field that is not a map, reached from both branches of the map test
  have plain : Keeps inv (do
      let element ← scope.element (.ofField f)
      pure (⟨element, plainShape f⟩ : FieldType)) :=
    keeps_bind (element_keeps keep _) fun _ => keeps_pure _
  unfold Scope.fieldType
  split
  · refine keeps_bind (resolve_keeps _) fun sym => ?_
    split
    · apply keeps_bind (element_keeps keep _)
      exact fun _ => keeps_bind (element_keeps keep _) fun _ => keeps_pure _
    · exact plain
  · exact plain

end Keeps

def ImportSet.Within (scope : Scope) (s : ImportSet) : Prop :=
  s.files.Pairwise (· < ·) ∧ ∀ x ∈ s.files, scope.Records x

theorem pairwise_insertOrdered {x : String} {files : List String}
    (sorted : files.Pairwise (· < ·)) : (insertOrdered x files).Pairwise (· < ·) := by
  induction files with
  | nil => simp [insertOrdered]
  | cons y rest ih =>
    obtain ⟨head, tail⟩ := List.pairwise_cons.mp sorted
    simp only [insertOrdered]
    split
    · rename_i before
      refine List.pairwise_cons.mpr ⟨?_, sorted⟩
      intro z member
      rcases List.mem_cons.mp member with rfl | later
      · exact before
      · exact lt_trans before (head z later)
    · split
      · exact sorted
      · rename_i after differ
        have later : y < x := lt_of_le_of_ne (not_lt.mp after) (Ne.symm differ)
        refine List.pairwise_cons.mpr ⟨?_, ih tail⟩
        intro z member
        rcases mem_insertOrdered.mp member with rfl | old
        · exact later
        · exact head z old

theorem within_empty (scope : Scope) : ({} : ImportSet).Within scope :=
  ⟨List.Pairwise.nil, fun _ member => absurd member List.not_mem_nil⟩

theorem preserves_within (scope : Scope) : scope.Preserves (ImportSet.Within scope) := by
  intro s x ⟨sorted, recorded⟩ records
  refine ⟨pairwise_insertOrdered sorted, ?_⟩
  intro y member
  rcases mem_insert.mp member with rfl | old
  · exact records
  · exact recorded y old

end ProtoTypings.Typing

namespace ProtoTypings.Emit

open ProtoTypings.Schema
open ProtoTypings.Typing

section Emitters

variable {scope : Scope} {inv : ImportSet → Prop}

theorem typeFields_keeps (keep : scope.Preserves inv) (fields : List FieldDescriptor) :
    Keeps inv (typeFields scope fields) :=
  keeps_mapM fun f _ => keeps_bind (fieldType_keeps keep f) fun _ => keeps_pure _

theorem extensionBlocks_keeps (keep : scope.Preserves inv) (ext : FieldDescriptor) :
    Keeps inv (extensionBlocks scope ext) := by
  apply keeps_bind (typeRef_keeps keep _)
  intro _
  exact keeps_bind (fieldType_keeps keep _) fun _ => keeps_pure _

/- A message types its fields, its nested messages and its extensions; a list of nested messages
skips map entries. -/
mutual
theorem messageBlocks_keeps (keep : scope.Preserves inv) (dialect : Dialect) :
    ∀ m : MessageDescriptor, Keeps inv (messageBlocks scope dialect m)
  | ⟨_, fields, nested, _, extensions, _, _, _⟩ => by
    rw [messageBlocks]
    apply keeps_bind (typeFields_keeps keep fields)
    intro _
    apply keeps_bind (nestedBlocks_keeps keep dialect nested)
    intro _
    apply keeps_bind (keeps_mapM fun ext _ => extensionBlocks_keeps keep ext)
    exact fun _ => keeps_pure _

theorem nestedBlocks_keeps (keep : scope.Preserves inv) (dialect : Dialect) :
    ∀ ms : List MessageDescriptor, Keeps inv (nestedBlocks scope dialect ms)
  | [] => keeps_pure _
  | m :: rest => by
    rw [nestedBlocks]
    split
    · exact nestedBlocks_keeps keep dialect rest
    · apply keeps_bind (messageBlocks_keeps keep dialect m)
      intro _
      exact keeps_bind (nestedBlocks_keeps keep dialect rest) fun _ => keeps_pure _
end

theorem declarationBody_keeps (keep : scope.Preserves inv) (file : FileDescriptor) :
    Keeps inv (declarationBody scope file) := by
  apply keeps_bind (nestedBlocks_keeps keep _ _)
  intro _
  exact keeps_bind (keeps_mapM fun ext _ => extensionBlocks_keeps keep ext) fun _ => keeps_pure _

theorem methodBlock_keeps (keep : scope.Preserves inv) (service : String)
    (m : MethodDescriptor) : Keeps inv (methodBlock scope service m) := by
  apply keeps_bind (typeRef_keeps keep _)
  intro _
  exact keeps_bind (typeRef_keeps keep _) fun _ => keeps_pure _

theorem serviceBlocks_keeps (keep : scope.Preserves inv) (package : String)
    (s : ServiceDescriptor) : Keeps inv (serviceBlocks scope package s) :=
  keeps_bind (keeps_mapM fun m _ => methodBlock_keeps keep s.name m) fun _ => keeps_pure _

end Emitters

theorem declarationBody_within (c : Catalog) (file : FileDescriptor) :
    (runTyping (declarationBody (c.scope file true) file)).2.Within (c.scope file true) :=
  declarationBody_keeps (preserves_within _) file {} (within_empty _)

theorem serviceBodies_within (c : Catalog) (file : FileDescriptor) :
    (runTyping (file.services.mapM (serviceBlocks (c.scope file false) file.package))).2.Within
      (c.scope file false) :=
  keeps_mapM (fun s _ => serviceBlocks_keeps (preserves_within _) file.package s) {}
    (within_empty _)

end ProtoTypings.Emit
