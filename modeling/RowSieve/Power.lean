/-!
# Powers

Powers of whole numbers are those of the core library.  They are declared again with a priority of
their own, so that a definition means the same whatever algebra is imported beside it.
-/

namespace RowSieve

/-- Powers of natural numbers. -/
@[default_instance 10001] instance (priority := 1001) naturalPower : Pow Nat Nat := instPowNat

/-- Powers of integers. -/
@[default_instance 10001] instance (priority := 1001) integerPower : Pow Int Nat := instPowNat

end RowSieve
