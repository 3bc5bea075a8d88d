import SigningKeys.Resolver

/-!
# The command line

`jwks-resolve <kid>...` prints the record of each key id as one line of JSON. The pipeline is
configured by environment variables. The command has no transport of its own: it reports every key
set as one that could not be reached.
-/

open SigningKeys

/-- The variables that are set, out of those that configure a pipeline. -/
def environment : IO (List (String × String)) := do
  let values ← Settings.variableNames.mapM fun name => do
    return (← IO.getEnv name).map (name, ·)
  return values.filterMap id

def main (kids : List String) : IO UInt32 := do
  let t := Resolver.run kids (← environment) .unreachable
  t.output.forM IO.println
  t.errors.forM IO.eprintln
  return t.code.toUInt32
