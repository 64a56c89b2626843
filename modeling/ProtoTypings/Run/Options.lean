namespace ProtoTypings.Run

/-- Settings of a generation run: whether services artifacts are written (by default they are). -/
structure Options where
  services : Bool := true
deriving DecidableEq, Repr

end ProtoTypings.Run
