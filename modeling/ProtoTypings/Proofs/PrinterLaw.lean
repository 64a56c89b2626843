import ProtoTypings.Proofs.LineView

namespace ProtoTypings.Layout

def Step.text : Step → String
  | .line text => text
  | .opening header => header
  | .blank => ""
  | .closing => ""

/-- What a step writes on its line at a depth: the indentation level, and the text after the
indentation. An empty text gets no indentation; a closing brace goes one level further out. -/
def Step.layout (depth : Nat) : Step → Nat × String
  | .line text => (if text.isEmpty then 0 else depth, text)
  | .blank => (0, "")
  | .opening header => (depth, header ++ " \x7b")
  | .closing => (depth - 1, "\x7d")

def stepLayouts (depth : Nat) : List Step → List (Nat × String)
  | [] => []
  | s :: rest => s.layout depth :: stepLayouts (s.depthAfter depth) rest

def layoutLine (kc : Nat × String) : String :=
  indent kc.1 ++ kc.2

theorem Step.lineAt_eq_layout (depth : Nat) (s : Step) :
    s.lineAt depth = layoutLine (s.layout depth) := by
  cases s with
  | line text =>
    by_cases empty : text.isEmpty
    · simp [Step.lineAt, Step.layout, layoutLine, String.isEmpty_iff.mp empty, indent]
    · simp [Step.lineAt, Step.layout, layoutLine, empty]
  | blank => rfl
  | opening header => rfl
  | closing => rfl

theorem stepLines_eq_layouts (depth : Nat) (steps : List Step) :
    stepLines depth steps = (stepLayouts depth steps).map layoutLine := by
  induction steps generalizing depth with
  | nil => rfl
  | cons s rest ih => rw [stepLines, stepLayouts, List.map_cons, ih, Step.lineAt_eq_layout]

theorem renderSteps_eq_layouts (depth : Nat) (steps : List Step) :
    renderSteps depth steps =
      String.join ((stepLayouts depth steps).map fun kc => layoutLine kc ++ "\n") := by
  rw [renderSteps_eq_join, stepLines_eq_layouts, List.map_map]
  rfl

theorem Step.layout_indent_of_empty (depth : Nat) (s : Step) (empty : (s.layout depth).2 = "") :
    (s.layout depth).1 = 0 := by
  cases s with
  | line text => simp_all [Step.layout]
  | blank => rfl
  | opening header => simp [Step.layout] at empty
  | closing => simp [Step.layout] at empty

theorem stepLayouts_indent_of_empty (depth : Nat) (steps : List Step) :
    ∀ kc ∈ stepLayouts depth steps, kc.2 = "" → kc.1 = 0 := by
  induction steps generalizing depth with
  | nil => simp [stepLayouts]
  | cons s rest ih =>
    rintro kc (_ | ⟨_, later⟩)
    · exact Step.layout_indent_of_empty depth s
    · exact ih _ kc later

theorem count_newline_indent (depth : Nat) : (indent depth).toList.count '\n' = 0 :=
  List.count_eq_zero.mpr (lineFree_indent depth)

theorem Step.count_newline_render (depth : Nat) (s : Step) :
    (s.render depth).toList.count '\n' = s.text.toList.count '\n' + 1 := by
  rw [Step.render_eq, Step.lineAt_eq_layout]
  cases s with
  | line text => simp [Step.layout, layoutLine, Step.text, count_newline_indent]
  | blank => simp [Step.layout, layoutLine, Step.text, indent]
  | opening header => simp [Step.layout, layoutLine, Step.text, count_newline_indent]
  | closing => simp [Step.layout, layoutLine, Step.text, count_newline_indent]

theorem count_newline_renderSteps (depth : Nat) (steps : List Step) :
    (renderSteps depth steps).toList.count '\n' =
      steps.length + (steps.flatMap fun s => s.text.toList).count '\n' := by
  induction steps generalizing depth with
  | nil => rfl
  | cons s rest ih =>
    rw [renderSteps, String.toList_append, List.count_append, Step.count_newline_render, ih,
      List.flatMap_cons, List.count_append, List.length_cons]
    omega

theorem renderSteps_eq_empty_iff (depth : Nat) (steps : List Step) :
    renderSteps depth steps = "" ↔ steps = [] := by
  constructor
  · intro empty
    have counted := count_newline_renderSteps depth steps
    rw [empty] at counted
    have none : steps.length = 0 := by simp at counted; omega
    exact List.length_eq_zero_iff.mp none
  · rintro rfl
    rfl

theorem lineFree_layout (depth : Nat) (s : Step) (free : LineFree s.text) :
    LineFree (layoutLine (s.layout depth)) := by
  cases s with
  | line text =>
    exact lineFree_append.mpr ⟨lineFree_indent _, free⟩
  | blank => simp [LineFree, Step.layout, layoutLine, indent]
  | opening header =>
    exact lineFree_append.mpr ⟨lineFree_indent _, lineFree_append.mpr ⟨free, by simp [LineFree]⟩⟩
  | closing =>
    exact lineFree_append.mpr ⟨lineFree_indent _, by simp [LineFree, Step.layout]⟩

theorem lineFree_stepLayouts (depth : Nat) (steps : List Step)
    (free : ∀ s ∈ steps, LineFree s.text) :
    ∀ l ∈ (stepLayouts depth steps).map layoutLine, LineFree l := by
  induction steps generalizing depth with
  | nil => simp [stepLayouts]
  | cons s rest ih =>
    rintro l (_ | ⟨_, later⟩)
    · exact lineFree_layout depth s (free s List.mem_cons_self)
    · exact ih _ (fun t member => free t (List.mem_cons_of_mem s member)) l later

theorem splitOn_renderSteps (depth : Nat) (steps : List Step)
    (free : ∀ s ∈ steps, LineFree s.text) :
    (renderSteps depth steps).toList.splitOn '\n' =
      (stepLayouts depth steps).map (fun kc => (layoutLine kc).toList) ++ [[]] := by
  rw [renderSteps_eq_layouts, String.toList_join, List.flatMap_map]
  have joined : (stepLayouts depth steps).flatMap (fun kc => (layoutLine kc ++ "\n").toList) =
      ((stepLayouts depth steps).map fun kc => (layoutLine kc).toList).flatMap (· ++ ['\n']) := by
    simp [List.flatMap_map]
  rw [joined, splitOn_flatMap_newline]
  intro l member
  obtain ⟨kc, inLayouts, rfl⟩ := List.mem_map.mp member
  exact lineFree_stepLayouts depth steps free _ (List.mem_map_of_mem inLayouts)

/-- The law of the printer over any run of steps from a new printer: its text is the run's lines
one after another, each its indentation, its text and a newline; its depth is the depth the
steps lead to; indentation stands only before a non-empty text; there is one newline per step
besides those inside the given texts; when the given texts hold no line break, those are exactly
the lines of the text; and the printer is empty exactly when no step has been taken. -/
theorem printer_run_law (steps : List Step) :
    (Printer.run {} steps).text =
        String.join ((stepLayouts 0 steps).map fun kc => indent kc.1 ++ kc.2 ++ "\n") ∧
      (Printer.run {} steps).depth = depthAfterSteps 0 steps ∧
      (∀ kc ∈ stepLayouts 0 steps, kc.2 = "" → kc.1 = 0) ∧
      (Printer.run {} steps).text.toList.count '\n' =
        steps.length + (steps.flatMap fun s => s.text.toList).count '\n' ∧
      ((∀ s ∈ steps, LineFree s.text) →
        (Printer.run {} steps).text.toList.splitOn '\n' =
          (stepLayouts 0 steps).map (fun kc => (indent kc.1 ++ kc.2).toList) ++ [[]]) ∧
      ((Printer.run {} steps).isEmpty = true ↔ steps = []) := by
  have text : (Printer.run {} steps).text = renderSteps 0 steps := by
    rw [run_text]
    exact String.empty_append
  refine ⟨?_, run_depth {} steps, stepLayouts_indent_of_empty 0 steps, ?_, fun free => ?_, ?_⟩
  · rw [text, renderSteps_eq_layouts]
    rfl
  · rw [text, count_newline_renderSteps]
  · rw [text, splitOn_renderSteps 0 steps free]
    rfl
  · rw [Printer.isEmpty, text, String.isEmpty_iff, renderSteps_eq_empty_iff]

/-- A header, then a line whose text starts with a line break: the second line of the text is one
level of indentation and nothing else. -/
theorem line_break_leaves_bare_indent :
    (print [.opening "a", .line "\nx"]).toList.splitOn '\n' =
      ["a \x7b".toList, (indent 1).toList, "x".toList, []] := by
  decide

end ProtoTypings.Layout
