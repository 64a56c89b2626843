import Std.Data.TreeMap
import ProtoTypings.Symbol.Table

namespace ProtoTypings

open ProtoTypings.Schema

/-- An index that holds each symbol under its own full name. -/
def Keyed (entries : Std.TreeMap String Symbol) : Prop :=
  ∀ (name : String) (sym : Symbol), entries[name]? = some sym → sym.fullName = name

theorem keyed_insertIfNew {entries : Std.TreeMap String Symbol} (keyed : Keyed entries)
    (sym : Symbol) : Keyed (entries.insertIfNew sym.fullName sym) := by
  intro name found hit
  rw [Std.TreeMap.getElem?_insertIfNew] at hit
  split at hit
  · rename_i fresh
    rw [← Option.some.inj hit]
    exact Std.LawfulEqCmp.compare_eq_iff_eq.mp fresh.1
  · exact keyed name found hit

structure ExportMap where
  entries : Std.TreeMap String Symbol
  keyed : Keyed entries

def ExportMap.empty : ExportMap :=
  ⟨∅, fun _ _ found => by simp at found⟩

/-- Records a symbol under its full name, unless the name is taken. -/
def ExportMap.record (m : ExportMap) (sym : Symbol) : ExportMap :=
  ⟨m.entries.insertIfNew sym.fullName sym, keyed_insertIfNew m.keyed sym⟩

def ExportMap.insert (m : ExportMap) (o : Origin) (localPath : String) (kind : SymbolKind) :
    ExportMap :=
  m.record (o.symbol localPath kind)

def ExportMap.addEnum (m : ExportMap) (o : Origin) (parent : String) (e : EnumDescriptor) :
    ExportMap :=
  m.insert o (qualify parent e.name) .enum

mutual
def ExportMap.addMessage (m : ExportMap) (o : Origin) (parent : String) :
    MessageDescriptor → ExportMap
  | msg@⟨name, _, nested, enums, _, _, _, _⟩ =>
    let path := qualify parent name
    let withNested := ((m.insert o path (.message (mapEntryOf msg))).addMessages o path nested)
    enums.foldl (fun acc e => acc.addEnum o path e) withNested

def ExportMap.addMessages (m : ExportMap) (o : Origin) (parent : String) :
    List MessageDescriptor → ExportMap
  | [] => m
  | msg :: rest => (m.addMessage o parent msg).addMessages o parent rest
end

def ExportMap.addFile (m : ExportMap) (f : FileDescriptor) : ExportMap :=
  let o : Origin := ⟨f.name, f.package⟩
  f.enums.foldl (fun acc e => acc.addEnum o "" e) (m.addMessages o "" f.messages)

def ExportMap.build (files : List FileDescriptor) : ExportMap :=
  files.foldl ExportMap.addFile ExportMap.empty

def ExportMap.get? (m : ExportMap) (name : String) : Option Symbol :=
  m.entries[stripDot name]?

def ExportMap.resolve (m : ExportMap) (name file : String) : Except Failure Symbol :=
  match m.get? name with
  | some s => .ok s
  | none => .error (.unresolved (stripDot name) file)

def ExportMap.size (m : ExportMap) : Nat :=
  m.entries.size

end ProtoTypings
