import ProtoTypings.Wire.Fault

namespace ProtoTypings.Wire

def varintFrom (count acc : Nat) : List UInt8 → Option (Nat × List UInt8)
  | [] => none
  | b :: rest =>
    let acc := acc + b.toNat % 128 * Nat.pow 2 (7 * count)
    if b.toNat < 128 then
      if count = 9 ∧ 2 ≤ b.toNat then none else some (acc, rest)
    else if count = 9 then none
    else varintFrom (count + 1) acc rest

theorem varintFrom_length {count acc : Nat} {bs rest : List UInt8} {v : Nat}
    (h : varintFrom count acc bs = some (v, rest)) : rest.length < bs.length := by
  induction bs generalizing count acc with
  | nil => simp [varintFrom] at h
  | cons b bs ih =>
    simp only [varintFrom] at h
    split at h
    · split at h
      · simp at h
      · simp only [Option.some.injEq, Prod.mk.injEq] at h
        rw [← h.2]
        simp
    · split at h
      · simp at h
      · have := ih h
        simp only [List.length_cons]
        omega

/-- Reads a variable-length integer, returning the value and the shorter rest. -/
def readVarint (bs : List UInt8) : Except Problem (Nat × { r : List UInt8 // r.length < bs.length }) :=
  match h : varintFrom 0 0 bs with
  | some (v, rest) => .ok (v, ⟨rest, varintFrom_length h⟩)
  | none => .error .badVarint

def writeVarint (n : Nat) : List UInt8 :=
  if n < 128 then [n.toUInt8]
  else (n % 128 + 128).toUInt8 :: writeVarint (n / 128)
termination_by n
decreasing_by omega

/-- The integer a 64-bit varint stands for when read as a signed 32-bit field: its low 32 bits in
two's complement. -/
def toInt32 (n : Nat) : Int :=
  let low : Nat := n % 4294967296
  if low < 2147483648 then (low : Int) else (low : Int) - 4294967296

def ofInt32 (i : Int) : Nat :=
  if i < 0 then (18446744073709551616 + i).toNat else i.toNat

end ProtoTypings.Wire
