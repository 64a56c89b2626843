import Mathlib
import ProtoTypings.Proofs.LineView

namespace ProtoTypings.Layout

inductive LineKind where
  | messageClass
  | plainClass
  | enum
  | extension
  | other
deriving DecidableEq, Repr

/-- The kind of a line text that starts with no space. A declaration starts with its keyword and
ends as a block opens, or, for an extension constant, with its type's closing bracket; a class is
a message class when it extends `jspb.Message`. -/
def kindOf (text : List Char) : LineKind :=
  if "export class ".toList <+: text ∧ " \x7b".toList <:+ text then
    if " extends jspb.Message \x7b".toList <:+ text then .messageClass else .plainClass
  else if "export enum ".toList <+: text ∧ " \x7b".toList <:+ text then .enum
  else if "export const ".toList <+: text ∧ ": jspb.ExtensionFieldInfo<".toList <:+: text ∧
      ">;".toList <:+ text then .extension
  else .other

@[ext] structure Census where
  messageClasses : Nat := 0
  enums : Nat := 0
  extensions : Nat := 0
  serviceClasses : Nat := 0
  methodClasses : Nat := 0
deriving DecidableEq, Repr

instance : Add Census :=
  ⟨fun a b => ⟨a.messageClasses + b.messageClasses, a.enums + b.enums, a.extensions + b.extensions,
    a.serviceClasses + b.serviceClasses, a.methodClasses + b.methodClasses⟩⟩

instance : SMul Nat Census :=
  ⟨fun n c => ⟨n * c.messageClasses, n * c.enums, n * c.extensions, n * c.serviceClasses,
    n * c.methodClasses⟩⟩

section Fields

variable (a b : Census) (n : Nat)

@[simp] theorem Census.add_messageClasses :
    (a + b).messageClasses = a.messageClasses + b.messageClasses := rfl
@[simp] theorem Census.add_enums : (a + b).enums = a.enums + b.enums := rfl
@[simp] theorem Census.add_extensions : (a + b).extensions = a.extensions + b.extensions := rfl
@[simp] theorem Census.add_serviceClasses :
    (a + b).serviceClasses = a.serviceClasses + b.serviceClasses := rfl
@[simp] theorem Census.add_methodClasses :
    (a + b).methodClasses = a.methodClasses + b.methodClasses := rfl

@[simp] theorem Census.smul_messageClasses : (n • a).messageClasses = n * a.messageClasses := rfl
@[simp] theorem Census.smul_enums : (n • a).enums = n * a.enums := rfl
@[simp] theorem Census.smul_extensions : (n • a).extensions = n * a.extensions := rfl
@[simp] theorem Census.smul_serviceClasses : (n • a).serviceClasses = n * a.serviceClasses := rfl
@[simp] theorem Census.smul_methodClasses : (n • a).methodClasses = n * a.methodClasses := rfl

@[simp] theorem Census.empty_add : ({} : Census) + a = a := by
  ext <;> simp

@[simp] theorem Census.add_empty : a + ({} : Census) = a := by
  ext <;> simp

@[simp] theorem Census.smul_empty : n • ({} : Census) = {} := by
  ext <;> simp

theorem Census.add_assoc (c : Census) : a + b + c = a + (b + c) := by
  ext <;> simp [Nat.add_assoc]

end Fields

/-- A class of a services artifact: a service class at the outermost level, a method class inside
a namespace. -/
def classCensus (indented : Bool) : Census :=
  if indented then { methodClasses := 1 } else { serviceClasses := 1 }

def LineKind.census (services indented : Bool) : LineKind → Census
  | .messageClass => if services then classCensus indented else { messageClasses := 1 }
  | .plainClass => if services then classCensus indented else {}
  | .enum => { enums := 1 }
  | .extension => { extensions := 1 }
  | .other => {}

def lineCensus (services : Bool) (line : List Char) : Census :=
  let rest := line.dropWhile (· = ' ')
  (kindOf rest).census services (decide (rest.length < line.length))

def linesCensus (services : Bool) : List (List Char) → Census
  | [] => {}
  | l :: rest => lineCensus services l + linesCensus services rest

/-- The census of the lines of a services artifact or a declarations artifact. -/
def census (services : Bool) (text : String) : Census :=
  linesCensus services (text.toList.splitOn '\n')

section Lines

variable (services : Bool)

@[simp] theorem linesCensus_nil : linesCensus services [] = {} := rfl

@[simp] theorem linesCensus_cons (l : List Char) (rest : List (List Char)) :
    linesCensus services (l :: rest) = lineCensus services l + linesCensus services rest := rfl

theorem linesCensus_append (xs ys : List (List Char)) :
    linesCensus services (xs ++ ys) = linesCensus services xs + linesCensus services ys := by
  induction xs with
  | nil => simp
  | cons l rest ih => rw [List.cons_append, linesCensus_cons, linesCensus_cons, ih, Census.add_assoc]

end Lines

theorem kindOf_of_head {c : Char} {rest : List Char} (notE : c ≠ 'e') :
    kindOf (c :: rest) = .other := by
  have other : 'e' ≠ c := Ne.symm notE
  simp [kindOf, List.cons_prefix_cons, other]

theorem kindOf_nil : kindOf [] = .other := by
  simp [kindOf]

/-- A text that ends with a comma neither opens a block nor ends a constant. -/
theorem kindOf_of_last {text : List Char} (last : text.getLast? = some ',') :
    kindOf text = .other := by
  have ends : ∀ tail : List Char, tail ≠ [] → tail <:+ text → tail.getLast? = some ',' := by
    rintro tail nonempty ⟨front, rfl⟩
    rwa [List.getLast?_append_of_ne_nil _ nonempty] at last
  have notOpen : ¬ " \x7b".toList <:+ text := fun opens => by
    simpa using ends _ (by simp) opens
  have notConst : ¬ ">;".toList <:+ text := fun closes => by
    simpa using ends _ (by simp) closes
  unfold kindOf
  rw [if_neg (fun both => notOpen both.2), if_neg (fun both => notOpen both.2),
    if_neg (fun both => notConst both.2.2)]

theorem kindOf_export {rest : List Char} (notClass : ¬ "class ".toList <+: rest)
    (notEnum : ¬ "enum ".toList <+: rest) (notConst : ¬ "const ".toList <+: rest) :
    kindOf ("export ".toList ++ rest) = .other := by
  have keyword : ∀ k : List Char, ("export ".toList ++ k <+: "export ".toList ++ rest) ↔ k <+: rest :=
    fun k => List.prefix_append_right_inj _
  have cls : "export class ".toList = "export ".toList ++ "class ".toList := rfl
  have enm : "export enum ".toList = "export ".toList ++ "enum ".toList := rfl
  have cst : "export const ".toList = "export ".toList ++ "const ".toList := rfl
  unfold kindOf
  rw [if_neg (by rw [cls, keyword]; exact fun both => notClass both.1),
    if_neg (by rw [enm, keyword]; exact fun both => notEnum both.1),
    if_neg (by rw [cst, keyword]; exact fun both => notConst both.1)]

theorem kindOf_messageClass (name : List Char) :
    kindOf ("export class ".toList ++ name ++ " extends jspb.Message \x7b".toList) =
      .messageClass := by
  have header : "export class ".toList <+:
      "export class ".toList ++ name ++ " extends jspb.Message \x7b".toList :=
    (List.prefix_append _ _).trans (List.prefix_append _ _)
  have extending : " extends jspb.Message \x7b".toList <:+
      "export class ".toList ++ name ++ " extends jspb.Message \x7b".toList :=
    List.suffix_append _ _
  have opens : " \x7b".toList <:+
      "export class ".toList ++ name ++ " extends jspb.Message \x7b".toList :=
    List.IsSuffix.trans ⟨" extends jspb.Message".toList, rfl⟩ extending
  unfold kindOf
  rw [if_pos ⟨header, opens⟩, if_pos extending]

/-- In a services artifact every class counts as a service or a method, whatever it extends. -/
theorem census_class (name : List Char) (indented : Bool) :
    (kindOf ("export class ".toList ++ name ++ " \x7b".toList)).census true indented =
      classCensus indented := by
  have header : "export class ".toList <+: "export class ".toList ++ name ++ " \x7b".toList :=
    (List.prefix_append _ _).trans (List.prefix_append _ _)
  unfold kindOf
  rw [if_pos ⟨header, List.suffix_append _ _⟩]
  split <;> rfl

theorem kindOf_enum (name : List Char) :
    kindOf ("export enum ".toList ++ name ++ " \x7b".toList) = .enum := by
  have notClass : ¬ "export class ".toList <+: "export enum ".toList ++ name ++ " \x7b".toList := by
    rw [List.append_assoc]
    simp [List.cons_prefix_cons]
  have header : "export enum ".toList <+: "export enum ".toList ++ name ++ " \x7b".toList :=
    (List.prefix_append _ _).trans (List.prefix_append _ _)
  unfold kindOf
  rw [if_neg (fun both => notClass both.1), if_pos ⟨header, List.suffix_append _ _⟩]

theorem kindOf_extension (name rest : List Char) :
    kindOf ("export const ".toList ++ name ++ ": jspb.ExtensionFieldInfo<".toList ++ rest ++
      ">;".toList) = .extension := by
  have split : "export const ".toList ++ name ++ ": jspb.ExtensionFieldInfo<".toList ++ rest ++
      ">;".toList = "export const ".toList ++ (name ++ ": jspb.ExtensionFieldInfo<".toList ++ rest ++
        ">;".toList) := by
    simp only [List.append_assoc]
  have notClass : ¬ "export class ".toList <+: "export const ".toList ++ (name ++
      ": jspb.ExtensionFieldInfo<".toList ++ rest ++ ">;".toList) := by
    simp [List.cons_prefix_cons]
  have notEnum : ¬ "export enum ".toList <+: "export const ".toList ++ (name ++
      ": jspb.ExtensionFieldInfo<".toList ++ rest ++ ">;".toList) := by
    simp [List.cons_prefix_cons]
  have typed : ": jspb.ExtensionFieldInfo<".toList <:+: "export const ".toList ++ (name ++
      ": jspb.ExtensionFieldInfo<".toList ++ rest ++ ">;".toList) :=
    ⟨"export const ".toList ++ name, rest ++ ">;".toList, by simp⟩
  have closes : ">;".toList <:+ "export const ".toList ++ (name ++
      ": jspb.ExtensionFieldInfo<".toList ++ rest ++ ">;".toList) :=
    ⟨"export const ".toList ++ (name ++ ": jspb.ExtensionFieldInfo<".toList ++ rest), by simp⟩
  rw [split]
  unfold kindOf
  rw [if_neg (fun both => notClass both.1), if_neg (fun both => notEnum both.1),
    if_pos ⟨List.prefix_append _ _, typed, closes⟩]

theorem dropWhile_space_of_head {text : List Char} (notSpace : text.head? ≠ some ' ') :
    text.dropWhile (· = ' ') = text := by
  cases text with
  | nil => rfl
  | cons c rest =>
    have other : c ≠ ' ' := by simpa using notSpace
    simp [other]

section Indent

variable (services : Bool) (depth : Nat)

theorem lineCensus_indent {text : List Char} (notSpace : text.head? ≠ some ' ') :
    lineCensus services ((indent depth).toList ++ text) =
      (kindOf text).census services (decide (0 < depth)) := by
  have dropped : (List.replicate (2 * depth) ' ' ++ text).dropWhile (· = ' ') = text := by
    rw [List.dropWhile_append_of_pos (by simp), dropWhile_space_of_head notSpace]
  have indented : decide (text.length < (List.replicate (2 * depth) ' ' ++ text).length) =
      decide (0 < depth) := by
    simp only [List.length_append, List.length_replicate, decide_eq_decide]
    omega
  simp only [lineCensus, indent_toList, dropped, indented]

/-- A line whose text, after its leading spaces, declares nothing counts nothing, however deep. -/
theorem lineCensus_other {text : List Char} (other : kindOf (text.dropWhile (· = ' ')) = .other) :
    lineCensus services ((indent depth).toList ++ text) = {} := by
  have dropped : ((indent depth).toList ++ text).dropWhile (· = ' ') = text.dropWhile (· = ' ') := by
    rw [indent_toList, List.dropWhile_append_of_pos (by simp)]
  simp only [lineCensus, dropped, other]
  rfl

theorem lineCensus_closing : lineCensus services (indent depth ++ "\x7d").toList = {} := by
  rw [String.toList_append, lineCensus_indent services depth (by decide)]
  show (kindOf ['\x7d']).census services _ = {}
  rw [kindOf_of_head (by decide)]
  rfl

end Indent

theorem lineCensus_nil (services : Bool) : lineCensus services [] = {} := by
  simp only [lineCensus, List.dropWhile_nil, kindOf_nil]
  rfl

/-- A line text that breaks no line and, read after its leading spaces, declares nothing. -/
structure Plain (text : String) : Prop where
  free : LineFree text
  other : kindOf (text.toList.dropWhile (· = ' ')) = .other

theorem plain_of_head {text : String}
    (head : text.toList.head?.all (fun c => c != ' ' && c != 'e') = true) (free : LineFree text) :
    Plain text := by
  refine ⟨free, ?_⟩
  cases listed : text.toList with
  | nil => exact kindOf_nil
  | cons c rest =>
    have starts : c ≠ ' ' ∧ c ≠ 'e' := by simpa [listed] using head
    rw [List.dropWhile_cons_of_neg (by simpa using starts.1)]
    exact kindOf_of_head starts.2

theorem plain_of_last {text : String} (last : text.toList.getLast? = some ',')
    (free : LineFree text) : Plain text := by
  refine ⟨free, kindOf_of_last ?_⟩
  obtain ⟨front, split⟩ := List.getLast?_eq_some_iff.mp last
  rw [split, List.dropWhile_append]
  split <;> simp

theorem plain_comma {text : String} (free : LineFree (text ++ ",")) : Plain (text ++ ",") := by
  refine plain_of_last ?_ free
  rw [String.toList_append]
  simp

/-- Steps printed at a depth into an artifact of one kind: they come back to that depth, no line
they write breaks, and their lines count `c`. -/
structure Counted (services : Bool) (depth : Nat) (steps : List Step) (c : Census) : Prop where
  back : depthAfterSteps depth steps = depth
  free : ∀ l ∈ stepLines depth steps, LineFree l
  counts : linesCensus services ((stepLines depth steps).map String.toList) = c

section Counting

variable {services : Bool} {depth : Nat}

theorem counted_nil : Counted services depth [] {} := ⟨rfl, by simp [stepLines], rfl⟩

theorem counted_append {xs ys : List Step} {c c' : Census} (first : Counted services depth xs c)
    (second : Counted services depth ys c') : Counted services depth (xs ++ ys) (c + c') := by
  have lines : stepLines depth (xs ++ ys) = stepLines depth xs ++ stepLines depth ys := by
    rw [stepLines_append, first.back]
  refine ⟨by rw [depthAfterSteps_append, first.back, second.back], ?_, ?_⟩
  · rw [lines]
    intro l member
    rcases List.mem_append.mp member with inFirst | inSecond
    · exact first.free l inFirst
    · exact second.free l inSecond
  · rw [lines, List.map_append, linesCensus_append, first.counts, second.counts]

/-- Counted steps split where the first part comes back to its depth. -/
theorem counted_split {xs ys : List Step} {c : Census} (back : depthAfterSteps depth xs = depth)
    (whole : Counted services depth (xs ++ ys) c) :
    ∃ c₁ c₂, c = c₁ + c₂ ∧ Counted services depth xs c₁ ∧ Counted services depth ys c₂ := by
  have lines : stepLines depth (xs ++ ys) = stepLines depth xs ++ stepLines depth ys := by
    rw [stepLines_append, back]
  have free := whole.free
  have counts := whole.counts
  rw [lines] at free counts
  rw [List.map_append, linesCensus_append] at counts
  have laterBack : depthAfterSteps depth ys = depth := by
    have total := whole.back
    rwa [depthAfterSteps_append, back] at total
  exact ⟨_, _, counts.symm,
    ⟨back, fun l member => free l (List.mem_append_left _ member), rfl⟩,
    ⟨laterBack, fun l member => free l (List.mem_append_right _ member), rfl⟩⟩

theorem counted_blank : Counted services depth [.blank] {} :=
  ⟨rfl, by simp [LineFree], by simp [lineCensus_nil]⟩

theorem counted_line {text : String} (plain : Plain text) : Counted services depth [.line text] {} := by
  by_cases empty : text.isEmpty
  · exact ⟨rfl, by simp [Step.lineAt, empty, LineFree], by simp [Step.lineAt, empty, lineCensus_nil]⟩
  · refine ⟨rfl, ?_, ?_⟩
    · intro l member
      rw [stepLines_line, List.mem_singleton] at member
      subst member
      rw [Step.lineAt, if_neg empty]
      exact lineFree_append.mpr ⟨lineFree_indent depth, plain.free⟩
    · rw [stepLines_line, Step.lineAt, if_neg empty, List.map_singleton, String.toList_append,
        linesCensus_cons, linesCensus_nil, lineCensus_other services depth plain.other,
        Census.add_empty]

theorem counted_line_of_kind {text : String} (free : LineFree text) (nonempty : text.isEmpty = false)
    (notSpace : text.toList.head? ≠ some ' ') :
    Counted services depth [.line text] ((kindOf text.toList).census services (decide (0 < depth))) := by
  refine ⟨rfl, ?_, ?_⟩
  · intro l member
    rw [stepLines_line, List.mem_singleton] at member
    subst member
    rw [Step.lineAt, if_neg (by simp [nonempty])]
    exact lineFree_append.mpr ⟨lineFree_indent depth, free⟩
  · rw [stepLines_line, Step.lineAt, if_neg (by simp [nonempty]), List.map_singleton,
      String.toList_append, linesCensus_cons, linesCensus_nil, lineCensus_indent services depth notSpace,
      Census.add_empty]

theorem counted_cons_line {text : String} {rest : List Step} {c : Census} (plain : Plain text)
    (counted : Counted services depth rest c) : Counted services depth (.line text :: rest) c := by
  have both := counted_append (counted_line plain) counted
  rwa [Census.empty_add] at both

theorem counted_lines {α : Type} {text : α → String} :
    ∀ {xs : List α}, (∀ x ∈ xs, Plain (text x)) →
      Counted services depth (xs.map fun x => .line (text x)) {}
  | [], _ => counted_nil
  | x :: _, plain =>
    counted_cons_line (plain x List.mem_cons_self)
      (counted_lines fun y member => plain y (List.mem_cons_of_mem x member))

theorem counted_group {header : String} {body : List Step} {c : Census} (free : LineFree header)
    (notSpace : (header ++ " \x7b").toList.head? ≠ some ' ')
    (inner : Counted services (depth + 1) body c) :
    Counted services depth (.opening header :: (body ++ [.closing]))
      ((kindOf (header ++ " \x7b").toList).census services (decide (0 < depth)) + c) := by
  refine ⟨back_group inner.back, free_group free inner.back inner.free, ?_⟩
  rw [stepLines_group depth header inner.back, List.map_cons, List.map_append, linesCensus_cons,
    linesCensus_append, String.toList_append, lineCensus_indent services depth notSpace,
    inner.counts, List.map_singleton, linesCensus_cons, lineCensus_closing, linesCensus_nil,
    Census.add_empty, Census.add_empty]

theorem counted_group_other {header : String} {body : List Step} {c : Census}
    (free : LineFree header) (notSpace : (header ++ " \x7b").toList.head? ≠ some ' ')
    (other : kindOf (header ++ " \x7b").toList = .other)
    (inner : Counted services (depth + 1) body c) :
    Counted services depth (.opening header :: (body ++ [.closing])) c := by
  have group := counted_group free notSpace inner
  rwa [other, LineKind.census, Census.empty_add] at group

theorem counted_namespaceGroup {name : String} {body : List Step} {c : Census}
    (free : LineFree name) (inner : Counted services (depth + 1) body c) :
    Counted services depth (.opening ("export namespace " ++ name) :: (body ++ [.closing])) c := by
  have split : (("export namespace " ++ name) ++ " \x7b").toList =
      "export ".toList ++ ("namespace ".toList ++ name.toList ++ " \x7b".toList) := by
    simp [String.toList_append]
  refine counted_group_other (lineFree_append.mpr ⟨by simp [LineFree], free⟩)
    (by simp [String.toList_append]) ?_ inner
  rw [split]
  exact kindOf_export (by simp [List.cons_prefix_cons]) (by simp [List.cons_prefix_cons])
    (by simp [List.cons_prefix_cons])

theorem counted_enumGroup {header : String} {rest : List Char} {body : List Step}
    (split : header.toList = "export enum ".toList ++ rest) (free : LineFree header)
    (inner : Counted services (depth + 1) body {}) :
    Counted services depth (.opening header :: (body ++ [.closing])) { enums := 1 } := by
  have group := counted_group free (by simp [String.toList_append, split]) inner
  rwa [String.toList_append, split, kindOf_enum, LineKind.census, Census.add_empty] at group

theorem counted_classGroup {name : String} {body : List Step} {c : Census} (free : LineFree name)
    (inner : Counted true (depth + 1) body c) :
    Counted true depth (.opening ("export class " ++ name) :: (body ++ [.closing]))
      (classCensus (decide (0 < depth)) + c) := by
  have group := @counted_group true depth ("export class " ++ name) body c
    (lineFree_append.mpr ⟨by simp [LineFree], free⟩) (by simp [String.toList_append]) inner
  rwa [String.toList_append, String.toList_append, census_class] at group

theorem counted_flatMap_congr {groups : List (List Step)} {f : List Step → List Step}
    {c : Census} (backs : ∀ g ∈ groups, depthAfterSteps depth g = depth)
    (each : ∀ g ∈ groups, ∀ c', Counted services depth g c' → Counted services depth (f g) c')
    (flat : Counted services depth groups.flatten c) : Counted services depth (groups.flatMap f) c := by
  induction groups generalizing c with
  | nil => exact flat
  | cons g rest ih =>
    rw [List.flatten_cons] at flat
    obtain ⟨here, later, rfl, hereOk, laterOk⟩ := counted_split (backs g List.mem_cons_self) flat
    rw [List.flatMap_cons]
    exact counted_append (each g List.mem_cons_self here hereOk)
      (ih (fun g' member => backs g' (List.mem_cons_of_mem g member))
        (fun g' member => each g' (List.mem_cons_of_mem g member)) laterOk)

theorem counted_flatMap_each {α : Type} {xs : List α} {f : α → List Step} {c : Census}
    (each : ∀ x ∈ xs, Counted services depth (f x) c) :
    Counted services depth (xs.flatMap f) (xs.length • c) := by
  induction xs with
  | nil =>
    have none : (0 : Nat) • c = {} := by ext <;> simp
    rw [List.flatMap_nil, List.length_nil, none]
    exact counted_nil
  | cons x rest ih =>
    have both := counted_append (each x List.mem_cons_self)
      (ih fun y member => each y (List.mem_cons_of_mem x member))
    have sum : c + rest.length • c = (rest.length + 1) • c := by
      ext <;> simp [Nat.succ_mul, Nat.add_comm]
    rw [List.flatMap_cons, List.length_cons, ← sum]
    exact both

end Counting

/-- The text of counted steps counts what the steps count. -/
theorem census_render {services : Bool} {steps : List Step} {c : Census}
    (counted : Counted services 0 steps c) : census services (render steps) = c := by
  unfold census
  rw [splitOn_render steps counted.free, linesCensus_append, counted.counts]
  simp [lineCensus_nil]

end ProtoTypings.Layout
