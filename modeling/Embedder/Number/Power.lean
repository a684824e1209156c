/-!
# Powers

The powers of natural numbers and integers are the ones of the core library, also where a library of
algebra has powers of its own for them. A bound such as `2 ^ 63` is then the same term everywhere.
-/

attribute [instance (20000), default_instance 20000] instPowNat
