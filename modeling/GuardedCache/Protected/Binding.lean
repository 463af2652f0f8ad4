import GuardedCache.Circuit.Config
import GuardedCache.Operation

/-!
# Bindings

A binding gives an operation its deadline and the configuration of its
breaker.  A binding table has one binding for each of the five operations.
-/

namespace GuardedCache.Protected

open Circuit

/-- The deadline of an operation that has no other. -/
def defaultTimeout : Duration := .ofSeconds 1

/-- The deadline and the breaker configuration of an operation. -/
structure Binding where
  /-- How long one call may take. -/
  timeout : Duration
  /-- The configuration of the breaker; without it, the registry's default. -/
  breaker : Option Config
deriving DecidableEq, Repr

/-- The breaker configuration that is built in for an operation.  Storing a
message needs two successful probes. -/
def builtInConfig : Operation → Option Config
  | .setMessage => some (.ofTimeout 5 (.ofSeconds 10) 2)
  | _ => none

/-- The binding that is built in for an operation. -/
def Binding.builtIn (operation : Operation) : Binding where
  timeout := defaultTimeout
  breaker := builtInConfig operation

/-- One binding for each operation. -/
abbrev BindingTable := Operation → Binding

namespace BindingTable

/-- The bindings that are built in. -/
def builtIn : BindingTable := Binding.builtIn

/-- The bindings that are given, and the built-in ones for the other
operations. -/
def ofPartial (given : Operation → Option Binding) : BindingTable :=
  fun operation => (given operation).getD (.builtIn operation)

/-- The table in which one operation has another binding. -/
def set (table : BindingTable) (operation : Operation) (binding : Binding) : BindingTable :=
  fun other => if other = operation then binding else table other

end BindingTable

end GuardedCache.Protected
