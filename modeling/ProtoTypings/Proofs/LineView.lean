import ProtoTypings.Proofs.Layout

namespace ProtoTypings.Layout

def LineFree (s : String) : Prop :=
  '\n' ∉ s.toList

instance : DecidablePred LineFree :=
  fun s => inferInstanceAs (Decidable ('\n' ∉ s.toList))

def Step.lineAt (depth : Nat) : Step → String
  | .line text => if text.isEmpty then "" else indent depth ++ text
  | .blank => ""
  | .opening header => indent depth ++ (header ++ " \x7b")
  | .closing => indent (depth - 1) ++ "\x7d"

def stepLines (depth : Nat) : List Step → List String
  | [] => []
  | s :: rest => s.lineAt depth :: stepLines (s.depthAfter depth) rest

theorem Step.render_eq (depth : Nat) (s : Step) : s.render depth = s.lineAt depth ++ "\n" := by
  cases s with
  | line text => simp only [Step.render, Step.lineAt, renderLine]
  | blank => rfl
  | opening header => simp [Step.render, Step.lineAt, renderLine]
  | closing => simp [Step.render, Step.lineAt, renderLine]

theorem renderSteps_eq_join (depth : Nat) (steps : List Step) :
    renderSteps depth steps = String.join ((stepLines depth steps).map (· ++ "\n")) := by
  induction steps generalizing depth with
  | nil => rfl
  | cons s rest ih =>
    rw [renderSteps, stepLines, ih, Step.render_eq, List.map_cons, String.join_cons]

theorem stepLines_append (depth : Nat) (xs ys : List Step) :
    stepLines depth (xs ++ ys) = stepLines depth xs ++ stepLines (depthAfterSteps depth xs) ys := by
  induction xs generalizing depth with
  | nil => rfl
  | cons s rest ih => simp [stepLines, depthAfterSteps, ih]

@[simp] theorem stepLines_line (depth : Nat) (text : String) :
    stepLines depth [.line text] = [Step.lineAt depth (.line text)] := rfl

@[simp] theorem stepLines_blank (depth : Nat) : stepLines depth [.blank] = [""] := rfl

theorem stepLines_group (depth : Nat) (header : String) {body : List Step}
    (back : depthAfterSteps (depth + 1) body = depth + 1) :
    stepLines depth (.opening header :: (body ++ [.closing])) =
      (indent depth ++ (header ++ " \x7b")) :: (stepLines (depth + 1) body ++
        [indent depth ++ "\x7d"]) := by
  simp only [stepLines, Step.lineAt, Step.depthAfter, stepLines_append, back]
  rfl

theorem render_eq_join (steps : List Step) :
    render steps = String.join ((stepLines 0 steps).map (· ++ "\n")) :=
  renderSteps_eq_join 0 steps

theorem splitOn_flatMap_newline :
    ∀ ls : List (List Char), (∀ l ∈ ls, '\n' ∉ l) →
      (ls.flatMap (· ++ ['\n'])).splitOn '\n' = ls ++ [[]]
  | [], _ => List.splitOn_nil _
  | l :: rest, free => by
    rw [List.flatMap_cons, List.append_assoc, List.singleton_append,
      List.splitOn_append_cons_self_of_not_mem (free l List.mem_cons_self),
      splitOn_flatMap_newline rest fun l' member => free l' (List.mem_cons_of_mem l member)]
    rfl

/-- The text of a layout whose lines hold no line break splits at its newlines into its lines and
the empty rest after the last newline. -/
theorem splitOn_render (steps : List Step) (free : ∀ l ∈ stepLines 0 steps, LineFree l) :
    (render steps).toList.splitOn '\n' = (stepLines 0 steps).map String.toList ++ [[]] := by
  rw [render_eq_join, String.toList_join, List.flatMap_map]
  have lines : (stepLines 0 steps).flatMap (fun l => (l ++ "\n").toList) =
      ((stepLines 0 steps).map String.toList).flatMap (· ++ ['\n']) := by
    simp [List.flatMap_map]
  rw [lines, splitOn_flatMap_newline]
  simpa [LineFree] using free

def declaredWord (cs : List Char) : Option String :=
  if "export class ".toList.isPrefixOf cs then
    some (String.ofList ((cs.drop 13).takeWhile (· ≠ ' ')))
  else if "export enum ".toList.isPrefixOf cs then
    some (String.ofList ((cs.drop 12).takeWhile (· ≠ ' ')))
  else none

def declarationOf (line : List Char) : Option (Nat × String) :=
  let rest := line.dropWhile (· = ' ')
  (declaredWord rest).map fun word => (line.length - rest.length, word)

/-- The declarations of a text: the indentation and declared word of each of its lines that
declares one, in order. -/
def declarations (text : String) : List (Nat × String) :=
  (text.toList.splitOn '\n').filterMap declarationOf

theorem declarationOf_spaces (n : Nat) (cs : List Char) :
    declarationOf (List.replicate n ' ' ++ cs) =
      (declarationOf cs).map fun (i, word) => (n + i, word) := by
  have dropped : (List.replicate n ' ' ++ cs).dropWhile (· = ' ') = cs.dropWhile (· = ' ') := by
    rw [List.dropWhile_append_of_pos (by simp)]
  have shorter : (cs.dropWhile (· = ' ')).length ≤ cs.length :=
    (List.dropWhile_suffix _).length_le
  simp only [declarationOf, dropped, Option.map_map]
  congr 1
  funext word
  simp only [Function.comp, List.length_append, List.length_replicate, Prod.mk.injEq, and_true]
  omega

theorem declarationOf_of_head {c : Char} {rest : List Char} (notSpace : c ≠ ' ') :
    declarationOf (c :: rest) = (declaredWord (c :: rest)).map fun word => (0, word) := by
  simp [declarationOf, notSpace]

theorem declarationOf_nil : declarationOf [] = none := rfl

theorem declaredWord_of_head {cs : List Char} {c : Char} (head : cs.head? = some c)
    (notE : c ≠ 'e') : declaredWord cs = none := by
  obtain ⟨rest, rfl⟩ : ∃ rest, cs = c :: rest := by
    cases cs with
    | nil => cases head
    | cons d rest => exact ⟨rest, by simpa using head⟩
  have other : 'e' ≠ c := Ne.symm notE
  simp [declaredWord, List.isPrefixOf, other]

theorem prefix_of_word {p x q z : List Char} (pFree : ' ' ∉ p) (xFree : ' ' ∉ x)
    (pre : p ++ ' ' :: q <+: x ++ ' ' :: z) : p = x ∧ q <+: z := by
  induction p generalizing x with
  | nil =>
    cases x with
    | nil => exact ⟨rfl, (List.cons_prefix_cons.mp pre).2⟩
    | cons c x' =>
      have same : ' ' = c := (List.cons_prefix_cons.mp pre).1
      exact absurd (same ▸ List.mem_cons_self) xFree
  | cons c p' ih =>
    cases x with
    | nil =>
      have same : c = ' ' := (List.cons_prefix_cons.mp pre).1
      exact absurd (same ▸ List.mem_cons_self) pFree
    | cons d x' =>
      obtain ⟨same, rest⟩ := List.cons_prefix_cons.mp pre
      obtain ⟨equal, later⟩ := ih (fun h => pFree (List.mem_cons_of_mem c h))
        (fun h => xFree (List.mem_cons_of_mem d h)) rest
      exact ⟨by rw [same, equal], later⟩

theorem declaredWord_of_word {x z : List Char} (xFree : ' ' ∉ x)
    (other : x ≠ "export".toList ∨
      (¬ "class ".toList <+: z ∧ ¬ "enum ".toList <+: z)) :
    declaredWord (x ++ ' ' :: z) = none := by
  have exportFree : ' ' ∉ "export".toList := by decide
  have classLine : "export class ".toList = "export".toList ++ ' ' :: "class ".toList := rfl
  have enumLine : "export enum ".toList = "export".toList ++ ' ' :: "enum ".toList := rfl
  unfold declaredWord
  rw [if_neg, if_neg]
  · rw [List.isPrefixOf_iff_prefix, enumLine]
    intro pre
    obtain ⟨same, later⟩ := prefix_of_word exportFree xFree pre
    rcases other with notExport | ⟨-, notEnum⟩
    · exact notExport same.symm
    · exact notEnum later
  · rw [List.isPrefixOf_iff_prefix, classLine]
    intro pre
    obtain ⟨same, later⟩ := prefix_of_word exportFree xFree pre
    rcases other with notExport | ⟨notClass, -⟩
    · exact notExport same.symm
    · exact notClass later

theorem takeWhile_word {name rest : List Char} (nameFree : ' ' ∉ name) :
    (name ++ ' ' :: rest).takeWhile (· ≠ ' ') = name := by
  have kept : ∀ c ∈ name, decide (c ≠ ' ') = true := by
    intro c member
    simpa using fun same : c = ' ' => nameFree (same ▸ member)
  rw [List.takeWhile_append_of_pos kept]
  simp

theorem declaredWord_class {name rest : List Char} (nameFree : ' ' ∉ name) :
    declaredWord ("export class ".toList ++ name ++ ' ' :: rest) = some (String.ofList name) := by
  have header : "export class ".toList.isPrefixOf ("export class ".toList ++ name ++ ' ' :: rest) := by
    rw [List.isPrefixOf_iff_prefix, List.append_assoc]
    exact List.prefix_append _ _
  have dropped : ("export class ".toList ++ name ++ ' ' :: rest).drop 13 = name ++ ' ' :: rest := by
    rw [List.append_assoc]
    exact List.drop_left' rfl
  rw [declaredWord, if_pos header, dropped, takeWhile_word nameFree]

theorem declaredWord_enum {name rest : List Char} (nameFree : ' ' ∉ name) :
    declaredWord ("export enum ".toList ++ name ++ ' ' :: rest) = some (String.ofList name) := by
  have notClass : ¬ "export class ".toList.isPrefixOf ("export enum ".toList ++ name ++ ' ' :: rest) := by
    rw [List.isPrefixOf_iff_prefix]
    intro pre
    have split : "export enum ".toList ++ name ++ ' ' :: rest =
        "export".toList ++ ' ' :: ("enum ".toList ++ name ++ ' ' :: rest) := by
      simp
    have classLine : "export class ".toList = "export".toList ++ ' ' :: "class ".toList := rfl
    rw [split, classLine] at pre
    obtain ⟨-, later⟩ := prefix_of_word (by decide) (by decide) pre
    simp [List.cons_prefix_cons] at later
  have header : "export enum ".toList.isPrefixOf ("export enum ".toList ++ name ++ ' ' :: rest) := by
    rw [List.isPrefixOf_iff_prefix, List.append_assoc]
    exact List.prefix_append _ _
  have dropped : ("export enum ".toList ++ name ++ ' ' :: rest).drop 12 = name ++ ' ' :: rest := by
    rw [List.append_assoc]
    exact List.drop_left' rfl
  rw [declaredWord, if_neg notClass, if_pos header, dropped, takeWhile_word nameFree]

theorem indent_toList (depth : Nat) : (indent depth).toList = List.replicate (2 * depth) ' ' := by
  induction depth with
  | zero => rfl
  | succ d ih =>
    rw [indent, List.replicate_succ, String.join_cons, String.toList_append, ← indent, ih,
      show 2 * (d + 1) = 2 + 2 * d by omega, ← List.replicate_append_replicate]
    rfl

theorem lineFree_append {a b : String} : LineFree (a ++ b) ↔ LineFree a ∧ LineFree b := by
  simp [LineFree, String.toList_append, not_or]

theorem lineFree_indent (depth : Nat) : LineFree (indent depth) := by
  simp [LineFree, indent_toList, List.mem_replicate]

/-- A line text that starts with no space, breaks no line and declares nothing. -/
structure Quiet (text : String) : Prop where
  free : LineFree text
  notSpace : text.toList.head? ≠ some ' '
  silent : declaredWord text.toList = none

theorem quiet_of_head {text : String}
    (head : text.toList.head?.all (fun c => c != ' ' && c != 'e') = true) (free : LineFree text) :
    Quiet text := by
  cases listed : text.toList with
  | nil => exact ⟨free, by simp [listed], by rw [listed]; rfl⟩
  | cons c rest =>
    have starts : c ≠ ' ' ∧ c ≠ 'e' := by simpa [listed] using head
    refine ⟨free, by simpa [listed] using starts.1, ?_⟩
    rw [listed]
    exact declaredWord_of_head rfl starts.2

theorem quiet_of_word {text : String} {x z : List Char} (split : text.toList = x ++ ' ' :: z)
    (nonempty : x ≠ []) (xFree : ' ' ∉ x)
    (other : x ≠ "export".toList ∨ (¬ "class ".toList <+: z ∧ ¬ "enum ".toList <+: z))
    (free : LineFree text) : Quiet text := by
  refine ⟨free, ?_, by rw [split]; exact declaredWord_of_word xFree other⟩
  obtain ⟨c, rest, rfl⟩ := List.exists_cons_of_ne_nil nonempty
  rw [split]
  simpa using fun same : c = ' ' => xFree (same ▸ List.mem_cons_self)

theorem quiet_export {text : String} {rest : List Char}
    (split : text.toList = "export ".toList ++ rest)
    (notClass : ¬ "class ".toList <+: rest) (notEnum : ¬ "enum ".toList <+: rest)
    (free : LineFree text) : Quiet text :=
  @quiet_of_word text "export".toList rest (by rw [split]; simp) (by simp) (by simp)
    (.inr ⟨notClass, notEnum⟩) free

/-- Steps printed at a depth: they come back to that depth, no line they write holds a line
break, and their declaration lines give `found`, in order. -/
structure Printed (depth : Nat) (steps : List Step) (found : List (Nat × String)) : Prop where
  back : depthAfterSteps depth steps = depth
  free : ∀ l ∈ stepLines depth steps, LineFree l
  declared : (stepLines depth steps).filterMap (fun l => declarationOf l.toList) = found

theorem printed_nil (depth : Nat) : Printed depth [] [] :=
  ⟨rfl, by simp [stepLines], rfl⟩

theorem printed_append {depth : Nat} {xs ys : List Step} {found found' : List (Nat × String)}
    (first : Printed depth xs found) (second : Printed depth ys found') :
    Printed depth (xs ++ ys) (found ++ found') := by
  have lines : stepLines depth (xs ++ ys) = stepLines depth xs ++ stepLines depth ys := by
    rw [stepLines_append, first.back]
  refine ⟨by rw [depthAfterSteps_append, first.back, second.back], ?_, ?_⟩
  · rw [lines]
    intro l member
    rcases List.mem_append.mp member with inFirst | inSecond
    · exact first.free l inFirst
    · exact second.free l inSecond
  · rw [lines, List.filterMap_append, first.declared, second.declared]

theorem printed_blank (depth : Nat) : Printed depth [.blank] [] :=
  ⟨rfl, by simp [LineFree], rfl⟩

theorem printed_line {depth : Nat} {text : String} (quiet : Quiet text) :
    Printed depth [.line text] [] := by
  obtain ⟨free, head, word⟩ := quiet
  by_cases empty : text.isEmpty
  · exact ⟨rfl, by simp [Step.lineAt, empty, LineFree],
      by simp [Step.lineAt, empty, declarationOf_nil]⟩
  · have written : (Step.lineAt depth (.line text)).toList =
        List.replicate (2 * depth) ' ' ++ text.toList := by
      simp [Step.lineAt, empty, String.toList_append, indent_toList]
    refine ⟨rfl, ?_, ?_⟩
    · intro l member
      rw [stepLines_line, List.mem_singleton] at member
      subst member
      rw [Step.lineAt, if_neg empty]
      exact lineFree_append.mpr ⟨lineFree_indent depth, free⟩
    · obtain ⟨c, rest, split⟩ : ∃ c rest, text.toList = c :: rest := by
        cases listed : text.toList with
        | nil => simp [String.toList_eq_nil_iff.mp listed] at empty
        | cons c rest => exact ⟨c, rest, rfl⟩
      have notSpace : c ≠ ' ' := by simpa [split] using head
      have declared : declarationOf (Step.lineAt depth (.line text)).toList = none := by
        rw [written, declarationOf_spaces, split, declarationOf_of_head notSpace, ← split, word]
        rfl
      rw [stepLines_line, List.filterMap_cons, declared]
      rfl

theorem printed_cons_line {depth : Nat} {text : String} {rest : List Step}
    {found : List (Nat × String)} (quiet : Quiet text) (printed : Printed depth rest found) :
    Printed depth (.line text :: rest) found :=
  printed_append (printed_line quiet) printed

theorem printed_lines {α : Type} {depth : Nat} {text : α → String} :
    ∀ {xs : List α}, (∀ x ∈ xs, Quiet (text x)) → Printed depth (xs.map fun x => .line (text x)) []
  | [], _ => printed_nil depth
  | x :: _, quiet =>
    printed_cons_line (quiet x List.mem_cons_self)
      (printed_lines fun y member => quiet y (List.mem_cons_of_mem x member))

theorem printed_flatMap {α : Type} {depth : Nat} {f : α → List Step}
    {found : α → List (Nat × String)} :
    ∀ {xs : List α}, (∀ x ∈ xs, Printed depth (f x) (found x)) →
      Printed depth (xs.flatMap f) (xs.flatMap found)
  | [], _ => printed_nil depth
  | x :: rest, each => by
    rw [List.flatMap_cons, List.flatMap_cons]
    exact printed_append (each x List.mem_cons_self)
      (printed_flatMap fun y member => each y (List.mem_cons_of_mem x member))

theorem printed_flatMap_quiet {α : Type} {depth : Nat} {f : α → List Step} {xs : List α}
    (each : ∀ x ∈ xs, Printed depth (f x) []) : Printed depth (xs.flatMap f) [] := by
  have none : xs.flatMap (fun _ => ([] : List (Nat × String))) = [] := by simp
  exact none ▸ printed_flatMap each

theorem closing_declares_nothing (depth : Nat) :
    declarationOf (indent depth ++ "\x7d").toList = none := by
  rw [String.toList_append, indent_toList, declarationOf_spaces]
  rfl

theorem free_group {depth : Nat} {header : String} {body : List Step} (free : LineFree header)
    (back : depthAfterSteps (depth + 1) body = depth + 1)
    (inner : ∀ l ∈ stepLines (depth + 1) body, LineFree l) :
    ∀ l ∈ stepLines depth (.opening header :: (body ++ [.closing])), LineFree l := by
  simp only [stepLines_group depth header back, List.mem_cons, List.mem_append,
    List.not_mem_nil, or_false]
  rintro l (rfl | inBody | rfl)
  · exact lineFree_append.mpr ⟨lineFree_indent depth,
      lineFree_append.mpr ⟨free, by simp [LineFree]⟩⟩
  · exact inner l inBody
  · exact lineFree_append.mpr ⟨lineFree_indent depth, by simp [LineFree]⟩

theorem back_group {depth : Nat} {header : String} {body : List Step}
    (back : depthAfterSteps (depth + 1) body = depth + 1) :
    depthAfterSteps depth (.opening header :: (body ++ [.closing])) = depth := by
  show depthAfterSteps (depth + 1) (body ++ [.closing]) = depth
  rw [depthAfterSteps_append, back]
  rfl

theorem printed_group_quiet {depth : Nat} {header : String} {body : List Step}
    {found : List (Nat × String)} (quiet : Quiet (header ++ " \x7b"))
    (inner : Printed (depth + 1) body found) :
    Printed depth (.opening header :: (body ++ [.closing])) found := by
  obtain ⟨free, head, word⟩ := quiet
  obtain ⟨c, rest, split⟩ : ∃ c rest, (header ++ " \x7b").toList = c :: rest := by
    cases listed : (header ++ " \x7b").toList with
    | nil => simp [String.toList_append] at listed
    | cons c rest => exact ⟨c, rest, rfl⟩
  have notSpace : c ≠ ' ' := by simpa [split] using head
  have opening : declarationOf (indent depth ++ (header ++ " \x7b")).toList = none := by
    rw [String.toList_append, indent_toList, declarationOf_spaces, split,
      declarationOf_of_head notSpace, ← split, word]
    rfl
  refine ⟨back_group inner.back,
    free_group (lineFree_append.mp free).1 inner.back inner.free, ?_⟩
  simp only [stepLines_group depth header inner.back, List.filterMap_cons, List.filterMap_append,
    opening, closing_declares_nothing, inner.declared, List.filterMap_nil, List.append_nil]

theorem printed_group_declaring {depth : Nat} {header word : String} {body : List Step}
    {found : List (Nat × String)} (free : LineFree header) (notSpace : header.toList.head? ≠ some ' ')
    (declares : declaredWord (header ++ " \x7b").toList = some word)
    (inner : Printed (depth + 1) body found) :
    Printed depth (.opening header :: (body ++ [.closing])) ((2 * depth, word) :: found) := by
  obtain ⟨c, rest, split⟩ : ∃ c rest, (header ++ " \x7b").toList = c :: rest := by
    cases listed : (header ++ " \x7b").toList with
    | nil => simp [String.toList_append] at listed
    | cons c rest => exact ⟨c, rest, rfl⟩
  have headChar : c ≠ ' ' := by
    cases listed : header.toList with
    | nil =>
      rw [String.toList_eq_nil_iff.mp listed] at declares
      simp [declaredWord] at declares
    | cons d tail =>
      rw [String.toList_append, listed] at split
      have : d = c := (List.cons.inj split).1
      subst this
      simpa [listed] using notSpace
  have opening : declarationOf (indent depth ++ (header ++ " \x7b")).toList =
      some (2 * depth, word) := by
    rw [String.toList_append, indent_toList, declarationOf_spaces, split,
      declarationOf_of_head headChar, ← split, declares]
    rfl
  refine ⟨back_group inner.back, free_group free inner.back inner.free, ?_⟩
  simp only [stepLines_group depth header inner.back, List.filterMap_cons, List.filterMap_append,
    opening, closing_declares_nothing, inner.declared, List.filterMap_nil, List.append_nil]

end ProtoTypings.Layout
