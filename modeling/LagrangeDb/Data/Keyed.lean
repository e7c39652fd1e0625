import Mathlib.Data.List.AList

namespace LagrangeDb.Data.Keyed

variable {Key Row : Type}

theorem lookup_insert [DecidableEq Key] {entries : AList fun _ : Key => Row} (other : Key) :
    (entries.insert key row).lookup other =
      if other = key then some row else entries.lookup other := by
  split
  next same => rw [same, AList.lookup_insert]
  next different => exact AList.lookup_insert_ne different

end LagrangeDb.Data.Keyed
