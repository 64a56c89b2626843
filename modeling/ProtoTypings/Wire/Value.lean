import ProtoTypings.Wire.Varint

namespace ProtoTypings.Wire

inductive Value where
  | varint (n : Nat)
  | fixed64 (n : Nat)
  | fixed32 (n : Nat)
  | text (s : String)
  | bytes (b : List UInt8)
  | record (fields : List (Nat × Value))
deriving Repr, Inhabited

/-- A decoded message: its fields in reading order. -/
abbrev Record := List (Nat × Value)

def Record.texts (r : Record) (n : Nat) : List String :=
  r.filterMap fun
    | (k, .text s) => if k = n then some s else none
    | _ => none

def Record.text (r : Record) (n : Nat) : String :=
  (r.texts n).getLast?.getD ""

def Record.varints (r : Record) (n : Nat) : List Nat :=
  r.filterMap fun
    | (k, .varint v) => if k = n then some v else none
    | _ => none

def Record.varint? (r : Record) (n : Nat) : Option Nat :=
  (r.varints n).getLast?

def Record.records (r : Record) (n : Nat) : List Record :=
  r.filterMap fun
    | (k, .record fs) => if k = n then some fs else none
    | _ => none

def Record.record? (r : Record) (n : Nat) : Option Record :=
  match r.records n with
  | [] => none
  | rs => some rs.flatten

def Record.int32? (r : Record) (n : Nat) : Option Int :=
  (r.varint? n).map toInt32

def Record.flag (r : Record) (n : Nat) : Bool :=
  match r.varint? n with
  | some v => v != 0
  | none => false

end ProtoTypings.Wire
