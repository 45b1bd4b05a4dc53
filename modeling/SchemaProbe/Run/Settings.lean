import SchemaProbe.Case.Plan
import SchemaProbe.Config.Basic

set_option autoImplicit false

namespace SchemaProbe

structure RunSettings where
  concurrency : Nat := 4
  requestTimeout : Nat := 10 * 10 ^ 9
  runTimeout : Option Nat := none
  checks : List Check := Check.all
  headers : NameMap String := []
  cases : CaseSettings := {}

namespace RunSettings

-- The nearest span for a number of seconds, which has to be less than 2^64.
def nanoseconds? (x : Binary64) : Option Nat :=
  if !x.isFinite || Binary64.lt x (Binary64.ofNat 0) || ((2 ^ 64 : Nat) : Rat) ≤ x.toRat then none
  else some (Binary64.divNearestEven (x.toRat.num.natAbs * 10 ^ 9) x.toRat.den)

-- Without a configured seed the drawn one is taken. Nothing if a span of time cannot be told.
def ofConfig? (c : Config) (drawn : UInt64) : Option RunSettings := do
  let requestTimeout ← nanoseconds? c.requestTimeout
  let runTimeout ← match c.runTimeout with
    | none => some none
    | some t => (nanoseconds? t).map some
  return {
    concurrency := max c.concurrency 1
    requestTimeout
    runTimeout
    checks := c.checks
    headers := c.headers
    cases := { seed := c.seed.getD drawn, maxCases := c.maxCases, randomCases := c.randomCases, pathTexts := c.pathTexts } }

end RunSettings

end SchemaProbe
