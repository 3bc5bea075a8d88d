import SigningKeys.Settings.Environment
import SigningKeys.State.Moves

/-!
# The resolver

The command resolves the key ids that it is given, one after the other, through a pipeline that the
environment configures. Time passes while it does: a server may hold its answers, and the command
may be slow to go on.

* `Lapse`: the time that passes while a key id is resolved, and after it was;
* `State.attempt`, `State.resolve`: the call for one key id;
* `resolveAll`: the records and the complaints, in the order of the ids;
* `Resolver.run`: what the command writes, and its exit code.
-/

namespace SigningKeys

/-- What became of one key id. -/
structure Resolution where
  kid : String
  outcome : Outcome

namespace Resolution

/-- The line on the standard output. -/
def line? (r : Resolution) : Option String := r.outcome.key?.map Jwk.render

/-- The line on the error output. -/
def complaint? (r : Resolution) : Option String :=
  match r.outcome with
  | .key _ => none
  | .error e => some (r.kid ++ ": " ++ e.message)
  | .panic text => some (r.kid ++ ": " ++ text)

end Resolution

/-- How time passes around one key id. -/
structure Lapse where
  /-- The time for which a server holds its answer. Where no answer is held, it passes after the
  call. -/
  during : Duration := Duration.zero
  /-- The time from the end of the call to whatever is done next. -/
  after : Duration := Duration.zero

/-- How much time passes in all. -/
def Lapse.nanos (l : Lapse) : Nat := l.during.nanos + l.after.nanos

/-- The state after the call for one key id, and after the time that passes around it. -/
def State.attempt (s : State) (p : Provider) (kid : String) (lapse : Lapse) : State :=
  (s.startWith p kid lapse.during).advance lapse.after

/-- Resolve one key id. -/
def State.resolve (s : State) (p : Provider) (kid : String) (lapse : Lapse) : Outcome × State :=
  let t := s.attempt p kid lapse
  ((t.outcome? s.started).getD (.panic "the call does not end"), t)

/-- **Resolve key ids in order**, whatever became of the ones before. Each of them takes the next
lapse of time, and none passes when there is no further one. -/
def resolveAll (p : Provider) : State → List Lapse → List String → List Resolution × State
  | s, _, [] => ([], s)
  | s, lapses, kid :: rest =>
    let (outcome, s) := s.resolve p kid (lapses.headD {})
    let (results, s) := resolveAll p s lapses.tail rest
    (⟨kid, outcome⟩ :: results, s)

/-- What a command leaves behind. -/
structure Transcript where
  code : Nat
  output : List String := []
  errors : List String := []
  requests : List String := []

namespace Resolver

/-- The pipeline that the environment configures, or the complaint. -/
def pipeline (env : List (String × String)) (network : Network) :
    Except String (Provider × State) :=
  match Settings.ofEnvironment env with
  | .error f => .error f.message
  | .ok settings =>
    match settings.blueprint with
    | .error e => .error e.message
    | .ok b =>
      match State.build { network } b none with
      | .error e => .error e.message
      | .ok (p, s) => .ok (p, { s with held := [some p] })

/-- **The command**: without key ids it explains its use; a pipeline that cannot be built ends it;
it succeeds if every id was resolved. -/
def run (kids : List String) (env : List (String × String)) (network : Network)
    (lapses : List Lapse := []) : Transcript :=
  if kids.isEmpty then { code := 2, errors := ["usage: jwks-resolve <kid>..."] }
  else match pipeline env network with
    | .error message => { code := 1, errors := ["Error: " ++ message] }
    | .ok (p, s) =>
      let (results, s) := resolveAll p s lapses kids
      let errors := results.filterMap Resolution.complaint?
      { code := if errors.isEmpty then 0 else 1
        output := results.filterMap Resolution.line?
        errors
        requests := s.requests.map Web.Url.requestText }

end Resolver

end SigningKeys
