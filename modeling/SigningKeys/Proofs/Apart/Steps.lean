import SigningKeys.Proofs.Apart.Parties

/-!
# Steps of one group

A step that is addressed to the second group is left out in the run of the first group by itself.
Any other step is taken there as well, and is answered the same.

* `Step.Plain`: the steps that are compared;
* `Parties.note`, `Parties.keep?`: the calls of the first group, and a step without the second one;
* `Scene.Mirror`: the scenes that both runs go through;
* `Mirror.get`, `Mirror.release`, `Mirror.abort`, `Mirror.drop`, `Mirror.bucket`: what comes of a
  step in both runs, kind by kind;
* **`Mirror.perform`**: what comes of any step.
-/

namespace SigningKeys

/-- **A step of one of the kinds that are compared**: a call begins, a call is given up, a provider
is let go, a gate opens, a bucket is called, or time passes. No time passes while a call is made, as
it does only when an answer of the network is held. -/
def Step.Plain : Step → Prop
  | .get _ _ delay => delay = Duration.zero
  | .advance _ | .release _ _ | .abort _ | .drop _ | .bucket _ _ => True
  | .fetchAll _ | .info _ | .debug _ | .callsFor _ _ | .hasCalls _ _ | .metrics => False

/-- A reply in which a call is named by its place among some numbers. -/
def Reply.renumbered (ids : List Nat) : Reply → Reply
  | .pending id => .pending (ids.idxOf id)
  | r => r

namespace Parties

/-- The numbers of the calls of the first group, after a step. -/
def note (P : Parties) (s : Scene) (ids : List Nat) : Step → List Nat
  | .get k _ _ =>
    if P.provider k && (s.state.provider? k).isSome then ids ++ [s.state.started] else ids
  | _ => ids

/-- **A step without the second group**: none if it is addressed to that group, and otherwise the
same step, in which the calls of the first group are numbered in their own order. -/
def keep? (P : Parties) (s : Scene) (ids : List Nat) : Step → Option Step
  | .get k kid delay => if P.provider k then some (.get k kid delay) else none
  | .drop k => if P.provider k then some (.drop k) else none
  | .release i n => if P.source i then some (.release i n) else none
  | .bucket b call => if P.bucket b then some (.bucket b call) else none
  | .abort id =>
    if ids.contains id then some (.abort (ids.idxOf id))
    -- a number that no call has yet belongs to no group
    else if id < s.state.started then none else some (.abort id)
  | x => some x

end Parties

namespace Scene

/-- **The scenes that both runs go through.** -/
structure Mirror (P : Parties) (π : Split) (sources : List Source) (network : Network)
    (s' s : Scene) : Prop where
  reached' : s'.Reached sources network
  reached : s.Reached sources network
  twin : State.Twin π s'.state s.state
  parted : s.state.Parted π
  follows : s.Follows P network π
  buckets : s'.buckets = s.buckets
  setups : s'.setups = s.setups
  shown' : s'.shown = s'.state.ended.length
  shown : s.shown = s.state.ended.length
  rest : s.state.ready = []
  ordered : π.calls.Pairwise (· < ·)

/-- What comes of a step in the run of the first group by itself, if it is not left out, and in the
whole run. -/
structure Mimics (π : Split) (s' : Scene) (r' : Option (Reply × Scene)) (r : Reply × Scene) :
    Prop where
  twin : State.Twin π (r'.elim s' (·.2)).state r.2.state
  parted : r.2.state.Parted π
  reply : ∀ a, r' = some a → a.1 = r.1.renumbered π.calls

variable {P : Parties} {π : Split} {s s' : Scene} {sources : List Source} {network : Network}

theorem Reached.numbered (h : s.Reached sources network) : s.state.Numbered [] := by
  obtain ⟨behind, hsound⟩ := h.sound
  exact hsound.numbered

/-- What a call that begins answers: its outcome if it has ended, and otherwise its number. -/
theorem get_eq (s : Scene) (q : Provider) (kid : String) (delay : Duration) :
    s.get q kid delay =
      (((s.state.startWith q kid delay).outcome? s.state.started).elim (.pending s.state.started)
        .outcome, { s with state := s.state.startWith q kid delay }) := by
  rw [get]
  split
  · rename_i o ho
    rw [ho]
    rfl
  · rename_i ho
    rw [ho]
    rfl

namespace Mirror

variable (h : Mirror P π sources network s' s)

include h

theorem rest' : s'.state.ready = [] := by rw [h.twin.ready, h.rest, List.filterMap_nil]

theorem provider_eq (k : Nat) : π.provider k = P.provider k := congrFun h.follows.provider k

theorem source_eq (i : Nat) : π.source i = P.source i := congrFun h.follows.source i

/-- Nothing happens in either run, with the same answer. -/
theorem still {r : Reply} (hr : r.renumbered π.calls = r) :
    Mimics π s' (some (r, s')) (r, s) where
  twin := h.twin
  parted := h.parted
  reply a ha := by
    cases ha
    exact hr.symm

omit h in
/-- A step is left out in the run of the first group. -/
theorem skip {r : Reply × Scene} (htwin : State.Twin π s'.state r.2.state)
    (hparted : r.2.state.Parted π) : Mimics π s' none r where
  twin := htwin
  parted := hparted
  reply _ ha := by cases ha

/-! ## Steps, kind by kind -/

theorem get (k : Nat) (kid : String) :
    Mimics { π with calls := P.note s π.calls (.get k kid Duration.zero) } s'
      ((P.keep? s π.calls (.get k kid Duration.zero)).map s'.perform)
      (s.perform (.get k kid Duration.zero)) := by
  rw [Parties.note, Parties.keep?, perform]
  cases hk : P.provider k with
  | false =>
    rw [if_neg Bool.false_ne_true, Option.map_none]
    cases hq : s.state.provider? k with
    | none => exact skip h.twin h.parted
    | some q =>
      have hon := h.parted.held k q hq
      rw [h.provider_eq, hk] at hon
      obtain ⟨htwin, hparted⟩ := h.twin.startWith_other h.parted h.rest' hon kid
      dsimp only
      rw [get_eq]
      exact skip htwin hparted
  | true =>
    have hsame := h.twin.held k ((h.provider_eq k).trans hk)
    rw [if_pos rfl, Option.map_some, perform, hsame]
    cases hq : s.state.provider? k with
    | none => exact h.still rfl
    | some q =>
      have hon := h.parted.held k q hq
      rw [h.provider_eq, hk] at hon
      obtain ⟨htwin, hparted⟩ := h.twin.startWith h.parted h.reached.numbered hon kid
      have hown : s.state.started ∈ (π.begin s.state.started).calls :=
        List.mem_append_right _ List.mem_cons_self
      have hend := htwin.outcome?_eq hown
      rw [h.twin.idxOf_started] at hend
      dsimp only
      rw [get_eq, get_eq, hend]
      refine ⟨htwin, hparted, fun a ha => ?_⟩
      cases ha
      cases (s.state.startWith q kid Duration.zero).outcome? s.state.started with
      | some o => rfl
      | none => exact congrArg Reply.pending h.twin.idxOf_started.symm

theorem advance (d : Duration) :
    Mimics π s' (some (s'.perform (.advance d))) (s.perform (.advance d)) where
  twin := h.twin.advance d
  parted := { h.parted with }
  reply a ha := by
    cases ha
    rfl

theorem release (i n : Nat) :
    Mimics π s' ((P.keep? s π.calls (.release i n)).map s'.perform) (s.perform (.release i n)) := by
  rw [Parties.keep?, ← h.source_eq]
  cases hi : π.source i with
  | false =>
    obtain ⟨htwin, hparted⟩ := h.twin.release_other h.parted h.rest' hi n
    exact skip htwin hparted
  | true =>
    obtain ⟨htwin, hparted⟩ := h.twin.release h.parted hi n
    refine ⟨htwin, hparted, fun a ha => ?_⟩
    cases ha
    rfl

theorem drop (k : Nat) :
    Mimics π s' ((P.keep? s π.calls (.drop k)).map s'.perform) (s.perform (.drop k)) := by
  rw [Parties.keep?, ← h.provider_eq, perform]
  cases hk : π.provider k with
  | false =>
    cases s.state.provider? k with
    | none => exact skip h.twin h.parted
    | some q => exact skip (h.twin.drop_other hk) (State.parted_drop h.parted k)
  | true =>
    rw [if_pos rfl, Option.map_some, perform, h.twin.held k hk]
    cases s.state.provider? k with
    | none => exact h.still rfl
    | some q =>
      refine ⟨h.twin.drop k, State.parted_drop h.parted k, fun a ha => ?_⟩
      cases ha
      rfl

theorem bucket (b : Nat) (call : BucketCall) :
    Mimics π s' ((P.keep? s π.calls (.bucket b call)).map s'.perform)
      (s.perform (.bucket b call)) := by
  rw [Parties.keep?, perform, callBucket]
  have hname : s'.bucket? b = s.bucket? b := by rw [bucket?, bucket?, h.buckets]
  cases hb : P.bucket b with
  | false =>
    cases hi : s.bucket? b with
    | error e => exact skip h.twin h.parted
    | ok i =>
      have hside : π.bucket i = false := (h.follows.bucket b i hi).trans hb
      dsimp only
      cases s.state.buckets[i]? with
      | none => exact skip h.twin h.parted
      | some bucket =>
        have hset := State.Confined.setBucket s.state hside (bucket.perform s.state.now call).2
        exact skip (h.twin.confined hset) (hset.parted h.parted)
  | true =>
    rw [if_pos rfl, Option.map_some, perform, callBucket, hname]
    cases hi : s.bucket? b with
    | error e => exact h.still rfl
    | ok i =>
      have hside : π.bucket i = true := (h.follows.bucket b i hi).trans hb
      dsimp only
      rw [h.twin.buckets i hside, h.twin.now]
      cases s.state.buckets[i]? with
      | none => exact h.still rfl
      | some bucket =>
        have hset := State.Confined.setBucket s.state hside (bucket.perform s.state.now call).2
        refine ⟨h.twin.setBucket i _, hset.parted h.parted, fun a ha => ?_⟩
        cases ha
        rfl

theorem abort (id : Nat) :
    Mimics π s' ((P.keep? s π.calls (.abort id)).map s'.perform) (s.perform (.abort id)) := by
  rw [Parties.keep?, perform]
  by_cases hid : id ∈ π.calls
  · have habort := h.twin.abort? h.parted hid
    rw [if_pos (List.contains_iff_mem.2 hid), Option.map_some, perform]
    generalize s'.state.abort? (π.calls.idxOf id) = o', s.state.abort? id = o at habort
    cases habort with
    | none => exact h.still rfl
    | some hboth =>
      refine ⟨hboth.1, hboth.2, fun a ha => ?_⟩
      cases ha
      rfl
  · rw [if_neg (mt List.contains_iff_mem.1 hid)]
    by_cases hlt : id < s.state.started
    · rw [if_pos hlt]
      cases ht : s.state.abort? id with
      | none => exact skip h.twin h.parted
      | some t =>
        obtain ⟨htwin, hparted⟩ := h.twin.abort?_other h.parted h.rest' hid ht
        exact skip htwin hparted
    · have hle : s.state.started ≤ id := Nat.not_lt.1 hlt
      have hnone : s.state.abort? id = none := by
        rw [State.abort?, h.reached.numbered.cancel?_eq_none hle, Option.map_none]
      have hnone' : s'.state.abort? id = none := by
        rw [State.abort?, h.reached'.numbered.cancel?_eq_none (h.twin.started_le.trans hle),
          Option.map_none]
      rw [if_neg hlt, Option.map_some, perform, hnone, hnone']
      exact h.still rfl

/-- **One step** in both runs, or in the whole run only. -/
theorem perform {x : Step} (hx : x.Plain) :
    Mimics { π with calls := P.note s π.calls x } s' ((P.keep? s π.calls x).map s'.perform)
      (s.perform x) := by
  cases x with
  | get k kid delay =>
    cases hx
    exact h.get k kid
  | advance d => exact h.advance d
  | release i n => exact h.release i n
  | abort id => exact h.abort id
  | drop k => exact h.drop k
  | bucket b call => exact h.bucket b call
  | fetchAll k | info k | debug k | callsFor i kid | hasCalls i n | metrics => exact hx.elim

end Mirror

end Scene

end SigningKeys
