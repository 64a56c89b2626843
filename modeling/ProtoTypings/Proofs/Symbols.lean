import Mathlib.Data.Finset.Card
import ProtoTypings.Symbol.ExportMap

namespace ProtoTypings

open ProtoTypings.Schema

theorem enumSymbols_file (o : Origin) (parent : String) (enums : List EnumDescriptor) :
    ∀ sym ∈ enumSymbols o parent enums, sym.file = o.file := by
  intro sym member
  obtain ⟨e, _, rfl⟩ := List.mem_map.mp member
  rfl

mutual
theorem messageSymbols_file (o : Origin) (parent : String) :
    ∀ m : MessageDescriptor, ∀ sym ∈ messageSymbols o parent m, sym.file = o.file
  | ⟨name, _, nested, enums, _, _, _, _⟩ => by
    intro sym member
    rw [messageSymbols] at member
    rcases List.mem_cons.mp member with rfl | member
    · rfl
    rcases List.mem_append.mp member with inner | enum
    · exact nestedSymbols_file o _ nested sym inner
    · exact enumSymbols_file o _ enums sym enum

theorem nestedSymbols_file (o : Origin) (parent : String) :
    ∀ ms : List MessageDescriptor, ∀ sym ∈ nestedSymbols o parent ms, sym.file = o.file
  | [] => by simp [nestedSymbols]
  | m :: rest => by
    intro sym member
    rw [nestedSymbols] at member
    rcases List.mem_append.mp member with here | later
    · exact messageSymbols_file o parent m sym here
    · exact nestedSymbols_file o parent rest sym later
end

theorem fileSymbols_file (f : FileDescriptor) : ∀ sym ∈ fileSymbols f, sym.file = f.name := by
  intro sym member
  rcases List.mem_append.mp member with message | enum
  · exact nestedSymbols_file _ _ _ sym message
  · exact enumSymbols_file _ _ _ sym enum

theorem file_mem_of_mem_build {files : List FileDescriptor} {sym : Symbol}
    (member : sym ∈ (SymbolTable.build files).symbols) : sym.file ∈ files.map (·.name) := by
  obtain ⟨f, inSet, declared⟩ := List.mem_flatMap.mp member
  rw [fileSymbols_file f sym declared]
  exact List.mem_map_of_mem inSet

section Record

variable {m : ExportMap} {sym : Symbol} {name : String}

theorem ExportMap.entries_record :
    (m.record sym).entries[name]? =
      if sym.fullName = name ∧ sym.fullName ∉ m.entries then some sym else m.entries[name]? := by
  simp only [ExportMap.record, Std.TreeMap.getElem?_insertIfNew, Std.LawfulEqCmp.compare_eq_iff_eq]

theorem ExportMap.mem_record :
    name ∈ (m.record sym).entries ↔ sym.fullName = name ∨ name ∈ m.entries := by
  simp only [ExportMap.record, Std.TreeMap.mem_insertIfNew, Std.LawfulEqCmp.compare_eq_iff_eq]

theorem ExportMap.size_record :
    (m.record sym).size = if sym.fullName ∈ m.entries then m.size else m.size + 1 := by
  simp only [ExportMap.record, ExportMap.size, Std.TreeMap.size_insertIfNew]

end Record

theorem ExportMap.entries_foldl_record (syms : List Symbol) :
    ∀ (m : ExportMap) (name : String), (syms.foldl ExportMap.record m).entries[name]? =
      m.entries[name]?.or (syms.find? (·.fullName == name)) := by
  induction syms with
  | nil => intro m name; simp
  | cons s rest ih =>
    intro m name
    rw [List.foldl_cons, ih, List.find?_cons, ExportMap.entries_record]
    by_cases same : s.fullName = name
    · -- the name is taken when the map holds it already; either way the earlier symbol stays
      subst same
      by_cases held : s.fullName ∈ m.entries <;> simp [held]
    · have other : (s.fullName == name) = false := by simpa using same
      simp [same, other]

theorem ExportMap.mem_foldl_record (syms : List Symbol) :
    ∀ (m : ExportMap) (name : String),
      name ∈ (syms.foldl ExportMap.record m).entries ↔ name ∈ m.entries ∨ name ∈ syms.map (·.fullName) := by
  induction syms with
  | nil => intro m name; simp
  | cons s rest ih =>
    intro m name
    rw [List.foldl_cons, ih, ExportMap.mem_record, List.map_cons, List.mem_cons]
    tauto

theorem ExportMap.size_foldl_record (syms : List Symbol) :
    (syms.foldl ExportMap.record ExportMap.empty).size = (syms.map (·.fullName)).toFinset.card := by
  induction syms using List.reverseRecOn with
  | nil => simp [ExportMap.size, ExportMap.empty]
  | append_singleton rest s ih =>
    have grown : ((rest ++ [s]).map (·.fullName)).toFinset =
        Insert.insert s.fullName (rest.map (·.fullName)).toFinset := by
      ext x
      simp
    rw [List.foldl_append, List.foldl_cons, List.foldl_nil, ExportMap.size_record, ih, grown]
    have held : s.fullName ∈ (rest.foldl ExportMap.record ExportMap.empty).entries ↔
        s.fullName ∈ (rest.map (·.fullName)).toFinset := by
      rw [ExportMap.mem_foldl_record, List.mem_toFinset]
      simp [ExportMap.empty]
    by_cases seen : s.fullName ∈ (rest.map (·.fullName)).toFinset
    · rw [if_pos (held.mpr seen), Finset.card_insert_of_mem seen]
    · rw [if_neg (mt held.mp seen), Finset.card_insert_of_notMem seen]

theorem ExportMap.addEnums_eq (o : Origin) (parent : String) (enums : List EnumDescriptor)
    (m : ExportMap) :
    enums.foldl (fun acc e => acc.addEnum o parent e) m =
      (enumSymbols o parent enums).foldl ExportMap.record m := by
  rw [enumSymbols, List.foldl_map]
  rfl

/- The recursive builder records a message, its nested messages and its enums in the order the walk
lists their symbols. -/
mutual
theorem ExportMap.addMessage_eq (o : Origin) (parent : String) :
    ∀ (msg : MessageDescriptor) (m : ExportMap),
      m.addMessage o parent msg = (messageSymbols o parent msg).foldl ExportMap.record m
  | ⟨name, fields, nested, enums, extensions, ranges, oneofs, options⟩, m => by
    rw [ExportMap.addMessage, messageSymbols, List.foldl_cons, List.foldl_append,
      ExportMap.addMessages_eq, ExportMap.addEnums_eq]
    rfl

theorem ExportMap.addMessages_eq (o : Origin) (parent : String) :
    ∀ (ms : List MessageDescriptor) (m : ExportMap),
      m.addMessages o parent ms = (nestedSymbols o parent ms).foldl ExportMap.record m
  | [], m => by rw [ExportMap.addMessages, nestedSymbols, List.foldl_nil]
  | msg :: rest, m => by
    rw [ExportMap.addMessages, nestedSymbols, List.foldl_append, ExportMap.addMessage_eq,
      ExportMap.addMessages_eq]
end

theorem ExportMap.build_eq (files : List FileDescriptor) :
    ExportMap.build files = (SymbolTable.build files).symbols.foldl ExportMap.record ExportMap.empty := by
  rw [ExportMap.build, SymbolTable.build]
  generalize ExportMap.empty = m
  induction files generalizing m with
  | nil => rfl
  | cons f rest ih =>
    rw [List.foldl_cons, ih, List.flatMap_cons, List.foldl_append, ExportMap.addFile, fileSymbols,
      List.foldl_append, ExportMap.addMessages_eq, ExportMap.addEnums_eq]

theorem ExportMap.entries_build (files : List FileDescriptor) (name : String) :
    (ExportMap.build files).entries[name]? =
      (SymbolTable.build files).symbols.find? (·.fullName == name) := by
  rw [ExportMap.build_eq, ExportMap.entries_foldl_record]
  simp [ExportMap.empty]

/-- The export map finds, for a reference, the first symbol of the walk with its full name. -/
theorem ExportMap.get?_build (files : List FileDescriptor) (name : String) :
    (ExportMap.build files).get? name = (SymbolTable.build files).get? name :=
  ExportMap.entries_build files (stripDot name)

theorem ExportMap.size_build (files : List FileDescriptor) :
    (ExportMap.build files).size =
      ((SymbolTable.build files).symbols.map (·.fullName)).toFinset.card := by
  rw [ExportMap.build_eq, ExportMap.size_foldl_record]

instance : Membership Symbol ExportMap where
  mem m sym := m.entries[sym.fullName]? = some sym

theorem ExportMap.resolve_eq_ok {m : ExportMap} {name file : String} {sym : Symbol} :
    m.resolve name file = .ok sym ↔ m.get? name = some sym := by
  unfold ExportMap.resolve
  split <;> simp_all

theorem ExportMap.mem_of_get? {m : ExportMap} {name : String} {sym : Symbol}
    (found : m.get? name = some sym) : sym ∈ m ∧ sym.fullName = stripDot name := by
  have named := m.keyed _ _ found
  refine ⟨?_, named⟩
  show m.entries[sym.fullName]? = some sym
  rw [named]
  exact found

theorem ExportMap.resolve_ok {m : ExportMap} {name file : String} {sym : Symbol}
    (found : m.resolve name file = .ok sym) : sym ∈ m ∧ sym.fullName = stripDot name :=
  ExportMap.mem_of_get? (ExportMap.resolve_eq_ok.mp found)

theorem ExportMap.mem_build {files : List FileDescriptor} {sym : Symbol}
    (held : sym ∈ ExportMap.build files) : sym ∈ (SymbolTable.build files).symbols := by
  have found : (ExportMap.build files).entries[sym.fullName]? = some sym := held
  rw [ExportMap.entries_build] at found
  exact List.mem_of_find?_eq_some found

end ProtoTypings
