import ShaderIdentity.Text.Digits

namespace ShaderIdentity

/-- The host's name for a live shader object. It may be used again once the object is gone. -/
structure Handle where
  id : UInt64
  deriving DecidableEq, Repr, Inhabited

namespace Handle

instance : Ord Handle := ⟨compareOn Handle.id⟩

instance : Std.TransOrd Handle := inferInstanceAs (Std.TransCmp (compareOn _))

instance : Std.LawfulEqOrd Handle where
  compare_self := Std.ReflOrd.compare_self (α := UInt64)
  eq_of_compare same := congrArg mk (Std.LawfulEqOrd.eq_of_compare (α := UInt64) same)

def text (handle : Handle) : String :=
  "0x" ++ String.ofList (Text.hex 1 handle.id.toNat)

end Handle

end ShaderIdentity
