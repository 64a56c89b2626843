namespace ProtoTypings.Layout

inductive Step where
  | line (text : String)
  | blank
  | opening (header : String)
  | closing
deriving DecidableEq, Repr

def indent (depth : Nat) : String :=
  String.join (List.replicate depth "  ")

/-- A line at a depth; an empty line carries no indentation. -/
def renderLine (depth : Nat) (text : String) : String :=
  (if text.isEmpty then "" else indent depth ++ text) ++ "\n"

def Step.depthAfter (depth : Nat) : Step → Nat
  | .line _ => depth
  | .blank => depth
  | .opening _ => depth + 1
  | .closing => depth - 1

def Step.render (depth : Nat) : Step → String
  | .line text => renderLine depth text
  | .blank => "\n"
  | .opening header => renderLine depth (header ++ " \x7b")
  | .closing => renderLine (depth - 1) "\x7d"

def renderSteps (depth : Nat) : List Step → String
  | [] => ""
  | s :: rest => s.render depth ++ renderSteps (s.depthAfter depth) rest

def depthAfterSteps (depth : Nat) : List Step → Nat
  | [] => depth
  | s :: rest => depthAfterSteps (s.depthAfter depth) rest

structure Printer where
  text : String := ""
  depth : Nat := 0
deriving DecidableEq, Repr

/-- Runs one step. -/
def Printer.step (p : Printer) (s : Step) : Printer :=
  { text := p.text ++ s.render p.depth, depth := s.depthAfter p.depth }

def Printer.run (p : Printer) (steps : List Step) : Printer :=
  steps.foldl Printer.step p

def Printer.isEmpty (p : Printer) : Bool :=
  p.text.isEmpty

/-- The text of steps run on an empty printer. -/
def print (steps : List Step) : String :=
  (Printer.run {} steps).text

def render (steps : List Step) : String :=
  renderSteps 0 steps

theorem run_nil (p : Printer) : p.run [] = p := rfl

theorem run_cons (p : Printer) (s : Step) (rest : List Step) :
    p.run (s :: rest) = (p.step s).run rest := rfl

theorem run_append (p : Printer) (xs ys : List Step) :
    p.run (xs ++ ys) = (p.run xs).run ys := by
  simp [Printer.run, List.foldl_append]

theorem run_text (p : Printer) (steps : List Step) :
    (p.run steps).text = p.text ++ renderSteps p.depth steps := by
  induction steps generalizing p with
  | nil => simp [run_nil, renderSteps]
  | cons s rest ih =>
    rw [run_cons, ih]
    simp [Printer.step, renderSteps, String.append_assoc]

theorem run_depth (p : Printer) (steps : List Step) :
    (p.run steps).depth = depthAfterSteps p.depth steps := by
  induction steps generalizing p with
  | nil => rfl
  | cons s rest ih => rw [run_cons, ih]; rfl

end ProtoTypings.Layout
