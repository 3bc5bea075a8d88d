import SigningKeys.Proofs.Json.Parts

/-!
# Reading values

What is read of a well-formed value does not depend on what follows it, nor on how many lists and
objects may be opened, if there are enough of them.

* `items_listed`, `fields_listed`: lists and objects are read part by part;
* `Settles`: what a reader makes of a part, wherever it stands;
* `Form`: a value by its first byte;
* **`settles_value`**, `settles_string`, `settles_strings`: values settle, those of a known type
  too;
* `complete_padded`: a part as a whole document.
-/

namespace SigningKeys.Json

/-! ## Lists -/

/-- What a reader makes of a part of a text with nothing behind it. -/
def outcome {α : Type} (r : Reader α) (bs : List UInt8) : Except Fault α := (r bs).map (·.1)

theorem Yields.outcome_eq {α : Type} {r : Reader α} {bs : List UInt8} {x : Except Fault α}
    (h : Yields r bs x) : outcome r bs = x := by
  have hr := h [] stops_nil
  rw [List.append_nil] at hr
  rw [outcome, hr]
  cases x <;> rfl

/-- The comma before a part, if it is not the first one. -/
def comma (first : Bool) : List UInt8 := if first then [] else [0x2C]

theorem listed_cons (first : Bool) (p : List UInt8) (ps : List (List UInt8)) :
    listed first (p :: ps) = comma first ++ p ++ listed false ps := rfl

theorem length_le_length_listed (first : Bool) {ps : List (List UInt8)} (h : ∀ p ∈ ps, p ≠ []) :
    ps.length ≤ (listed first ps).length := by
  induction ps generalizing first with
  | nil => exact Nat.zero_le _
  | cons p ps ih =>
    have hp : 0 < p.length := List.length_pos_iff.2 (h p List.mem_cons_self)
    have hps := ih false fun q hq => h q (List.mem_cons_of_mem _ hq)
    simp only [listed_cons, List.length_cons, List.length_append]
    omega

/-- What follows a part ends it: a comma, or the bracket that closes it all. -/
theorem stops_listed {b : UInt8} (hb : b ∈ [0x5D, 0x7D]) {gap : List UInt8} (hgap : Blank gap)
    (ps : List (List UInt8)) (rest : List UInt8) :
    Stops (gap ++ (listed false ps ++ b :: rest)) := by
  refine Stops.blank_append ?_ hgap
  cases ps with
  | nil =>
    refine stops_cons ?_ rest
    simp only [List.mem_cons, List.not_mem_nil, or_false] at hb
    rcases hb with rfl | rfl <;> decide
  | cons p ps => exact stops_cons (by decide) _

/-- The first byte of a value is neither blank nor a closing bracket. -/
def Opens (bs : List UInt8) : Prop :=
  ∃ b t, bs = b :: t ∧ isBlankByte b = false ∧ b ≠ 0x5D

theorem nextItem_done (first : Bool) {gap : List UInt8} (hgap : Blank gap) (rest : List UInt8) :
    nextItem first (gap ++ 0x5D :: rest) = .ok (.done rest) := by
  rw [nextItem, skipBlank_append hgap]
  rfl

theorem nextItem_more (first : Bool) {gap lead core : List UInt8} (hgap : Blank gap)
    (hlead : Blank lead) (hcore : Opens core) (rest : List UInt8) :
    nextItem first (gap ++ (comma first ++ (lead ++ (core ++ rest)))) =
      .ok (.more (core ++ rest)) := by
  obtain ⟨b, t, rfl, hblank, hb⟩ := hcore
  rw [nextItem, skipBlank_append hgap]
  cases first with
  | true =>
    rw [comma, if_pos rfl, List.nil_append, skipBlank_append hlead, List.cons_append,
      skipBlank_cons_of_not_blank hblank]
    dsimp only
    rw [if_neg hb, if_pos rfl]
  | false =>
    have hcomma : skipBlank (comma false ++ (lead ++ (b :: t ++ rest))) =
        0x2C :: (lead ++ (b :: t ++ rest)) := rfl
    rw [hcomma]
    dsimp only
    rw [if_neg (by decide), if_neg (by decide), if_pos rfl, skipBlank_append hlead,
      List.cons_append, skipBlank_cons_of_not_blank hblank]
    dsimp only
    rw [if_neg hb]

section

variable {α : Type} {item : Reader α} {f : Padded → Except Fault α}

theorem itemsFrom_listed {ps : List Padded} (hopens : ∀ p ∈ ps, Opens p.core)
    (hf : ∀ p ∈ ps, Yields item p.core (f p)) (fuel : Nat) (hfuel : ps.length < fuel) (first : Bool)
    {gap : List UInt8} (hgap : Blank gap) (rest : List UInt8) :
    itemsFrom item fuel first (gap ++ (listed first (ps.map Padded.bytes) ++ 0x5D :: rest)) =
      (ps.mapM f).map (·, rest) := by
  induction ps generalizing fuel first gap with
  | nil =>
    obtain ⟨fuel, rfl⟩ := Nat.exists_eq_succ_of_ne_zero (Nat.ne_of_gt hfuel)
    rw [List.map_nil, listed, List.nil_append, itemsFrom, nextItem_done first hgap]
    rfl
  | cons p ps ih =>
    obtain ⟨fuel, rfl⟩ := Nat.exists_eq_succ_of_ne_zero (Nat.ne_of_gt (Nat.zero_lt_of_lt hfuel))
    have hmem := fun q (hq : q ∈ ps) => List.mem_cons_of_mem p hq
    have hparts : gap ++ (listed first ((p :: ps).map Padded.bytes) ++ 0x5D :: rest) =
        gap ++ (comma first ++ (p.lead ++ (p.core ++
          (p.trail ++ (listed false (ps.map Padded.bytes) ++ 0x5D :: rest))))) := by
      simp [listed_cons, Padded.bytes, List.append_assoc]
    have hitem := hf p List.mem_cons_self _
      (stops_listed (b := 0x5D) (by decide) p.blank_trail (ps.map Padded.bytes) rest)
    have hrest := ih (fun q hq => hopens q (hmem q hq)) (fun q hq => hf q (hmem q hq)) fuel
      (Nat.lt_of_succ_lt_succ hfuel) false p.blank_trail
    rw [hparts, itemsFrom, nextItem_more first hgap p.blank_lead (hopens p List.mem_cons_self)]
    simp only [bind, Except.bind]
    rw [hitem, List.mapM_cons]
    cases f p with
    | error fault => rfl
    | ok a =>
      simp only [Except.map]
      rw [hrest]
      cases ps.mapM f <;> rfl

/-- **The items of a list** are read one after the other. -/
theorem items_listed {ps : List Padded} (hopens : ∀ p ∈ ps, Opens p.core)
    (hf : ∀ p ∈ ps, Yields item p.core (f p)) {gap : List UInt8} (hgap : Blank gap)
    (rest : List UInt8) :
    items item (gap ++ (listed true (ps.map Padded.bytes) ++ 0x5D :: rest)) =
      (ps.mapM f).map (·, rest) := by
  refine itemsFrom_listed hopens hf _ ?_ true hgap rest
  have hne : ∀ q ∈ ps.map Padded.bytes, q ≠ [] := by
    intro q hq
    obtain ⟨p, hp, rfl⟩ := List.mem_map.1 hq
    obtain ⟨b, t, hcore, -⟩ := hopens p hp
    simp [Padded.bytes, hcore]
  have hlength := length_le_length_listed true hne
  simp only [List.length_map] at hlength
  simp only [List.length_append, List.length_cons]
  omega

end

/-! ## Objects -/

section

variable {σ : Type} {field : σ → String → Reader σ} {g : σ → Field → Except Fault σ}

/-- The name of a field, and what is made of it. -/
def named (field : σ → String → Reader σ) (s : σ) : Reader σ := fun bs => do
  let (name, bs) ← text bs
  field s name bs

theorem fieldsFrom_more {fuel : Nat} {first : Bool} {s : σ} {bs rest : List UInt8}
    (h : nextField first bs = .ok (.more rest)) :
    fieldsFrom field (fuel + 1) first s bs =
      (named field s rest >>= fun p => fieldsFrom field fuel false p.1 p.2) := by
  rw [fieldsFrom, h, named]
  simp only [bind, Except.bind]
  cases text rest <;> rfl

theorem nextField_done (first : Bool) {gap : List UInt8} (hgap : Blank gap) (rest : List UInt8) :
    nextField first (gap ++ 0x7D :: rest) = .ok (.done rest) := by
  rw [nextField, skipBlank_append hgap]
  rfl

theorem nextField_more (first : Bool) {gap lead : List UInt8} (hgap : Blank gap)
    (hlead : Blank lead) (rest : List UInt8) :
    nextField first (gap ++ (comma first ++ (lead ++ 0x22 :: rest))) = .ok (.more rest) := by
  have hquote : skipBlank (0x22 :: rest) = 0x22 :: rest := rfl
  rw [nextField, skipBlank_append hgap]
  cases first with
  | true =>
    rw [comma, if_pos rfl, List.nil_append, skipBlank_append hlead, hquote]
    rfl
  | false =>
    have hcomma : skipBlank (comma false ++ (lead ++ 0x22 :: rest)) =
        0x2C :: (lead ++ 0x22 :: rest) := rfl
    rw [hcomma]
    dsimp only
    rw [if_neg (by decide), if_neg (by decide), if_pos rfl, skipBlank_append hlead, hquote]
    rfl

theorem fieldsFrom_listed {fs : List Field}
    (hg : ∀ f ∈ fs, ∀ s, Yields (named field s) f.inner (g s f)) (fuel : Nat)
    (hfuel : fs.length < fuel) (first : Bool) (s : σ) {gap : List UInt8} (hgap : Blank gap)
    (rest : List UInt8) :
    fieldsFrom field fuel first s (gap ++ (listed first (fs.map Field.bytes) ++ 0x7D :: rest)) =
      (fs.foldlM g s).map (·, rest) := by
  induction fs generalizing fuel first s gap with
  | nil =>
    obtain ⟨fuel, rfl⟩ := Nat.exists_eq_succ_of_ne_zero (Nat.ne_of_gt hfuel)
    rw [List.map_nil, listed, List.nil_append, fieldsFrom, nextField_done first hgap]
    rfl
  | cons f fs ih =>
    obtain ⟨fuel, rfl⟩ := Nat.exists_eq_succ_of_ne_zero (Nat.ne_of_gt (Nat.zero_lt_of_lt hfuel))
    have hparts : gap ++ (listed first ((f :: fs).map Field.bytes) ++ 0x7D :: rest) =
        gap ++ (comma first ++ (f.lead ++ 0x22 :: (f.inner ++
          (f.value.trail ++ (listed false (fs.map Field.bytes) ++ 0x7D :: rest))))) := by
      simp [listed_cons, Field.bytes, List.append_assoc]
    have hfield := hg f List.mem_cons_self s _
      (stops_listed (b := 0x7D) (by decide) f.value.blank_trail (fs.map Field.bytes) rest)
    have hrest (t : σ) := ih (fun f' hf' => hg f' (List.mem_cons_of_mem f hf')) fuel
      (Nat.lt_of_succ_lt_succ hfuel) false t f.value.blank_trail
    rw [hparts, fieldsFrom_more (nextField_more first hgap f.blank_lead _), hfield, List.foldlM_cons]
    cases g s f with
    | error fault => rfl
    | ok t => exact hrest t

/-- **The fields of an object** are read one after the other. -/
theorem fields_listed {fs : List Field}
    (hg : ∀ f ∈ fs, ∀ s, Yields (named field s) f.inner (g s f)) (s : σ) {gap : List UInt8}
    (hgap : Blank gap) (rest : List UInt8) :
    fields field s (gap ++ (listed true (fs.map Field.bytes) ++ 0x7D :: rest)) =
      (fs.foldlM g s).map (·, rest) := by
  refine fieldsFrom_listed hg _ ?_ true s hgap rest
  have hne : ∀ q ∈ fs.map Field.bytes, q ≠ [] := by
    intro q hq
    obtain ⟨f, -, rfl⟩ := List.mem_map.1 hq
    simp [Field.bytes]
  have hlength := length_le_length_listed true hne
  simp only [List.length_map] at hlength
  simp only [List.length_append, List.length_cons]
  omega

end

/-! ## Readers that settle -/

section

variable {α β : Type} {r : Nat → Reader α} {n : Nat} {bs : List UInt8}

/-- **What a reader makes of a part** does not depend on what follows it, nor on how many lists and
objects may be opened, if there may be `n` of them. -/
def Settles {α : Type} (r : Nat → Reader α) (n : Nat) (bs : List UInt8) : Prop :=
  ∃ x, ∀ d, n ≤ d → Yields (r d) bs x

theorem Settles.yields (h : Settles r n bs) {d : Nat} (hd : n ≤ d) :
    Yields (r d) bs (outcome (r n) bs) := by
  obtain ⟨x, hx⟩ := h
  rw [(hx n (Nat.le_refl n)).outcome_eq]
  exact hx d hd

theorem Settles.map (h : Settles r n bs) (g : α → β) :
    Settles (fun d bs => do let (a, rest) ← r d bs; .ok (g a, rest)) n bs := by
  obtain ⟨x, hx⟩ := h
  refine ⟨x.map g, fun d hd rest hrest => ?_⟩
  dsimp only
  rw [hx d hd rest hrest]
  cases x <;> rfl

/-- A reader that skips the blanks in front. -/
def SkipsBlank (r : Reader α) : Prop := ∀ bs, r (skipBlank bs) = r bs

theorem SkipsBlank.append {r : Reader α} (h : SkipsBlank r) {lead : List UInt8} (hlead : Blank lead)
    (bs : List UInt8) : r (lead ++ bs) = r bs := by
  rw [← h, skipBlank_append hlead, h]

theorem colon_append {gap : List UInt8} (hgap : Blank gap) (rest : List UInt8) :
    colon (gap ++ 0x3A :: rest) = .ok rest := by
  rw [colon, skipBlank_append hgap]
  rfl

/-- A field behind its name. -/
def Field.behindName (f : Field) : List UInt8 := f.gap ++ 0x3A :: (f.value.lead ++ f.value.core)

theorem Yields.behindColon {r : Reader α} {f : Field} {x : Except Fault α}
    (h : Yields r f.value.core x) (hskips : SkipsBlank r) :
    Yields (behindColon r) f.behindName x := by
  intro rest hrest
  have hparts : f.behindName ++ rest =
      f.gap ++ 0x3A :: (f.value.lead ++ (f.value.core ++ rest)) := by
    simp [Field.behindName, List.append_assoc]
  rw [hparts, Json.behindColon, colon_append f.blank_gap]
  exact (hskips.append f.value.blank_lead _).trans (h rest hrest)

theorem Settles.behindColon {f : Field} (h : Settles r n f.value.core)
    (hskips : ∀ d, SkipsBlank (r d)) :
    Settles (fun d => behindColon (r d)) n f.behindName := by
  obtain ⟨x, hx⟩ := h
  exact ⟨x, fun d hd => (hx d hd).behindColon (hskips d)⟩

/-- A field whose name is a text. -/
theorem yields_named {σ : Type} {field : σ → String → Reader σ} {s : σ} {f : Field} {name : String}
    (hname : spellText f.name = some name) {x : Except Fault σ}
    (h : Yields (field s name) f.behindName x) : Yields (named field s) f.inner x := by
  intro rest hrest
  have hparts : f.inner ++ rest = closed f.name ++ (f.behindName ++ rest) := by
    simp [Field.inner, Field.behindName, List.append_assoc]
  rw [hparts, named, text_closed hname]
  exact h rest hrest

theorem settles_named {σ : Type} (field : Nat → σ → String → Reader σ) {s : σ} {f : Field}
    (h : ∀ name, Settles (fun d => field d s name) n f.behindName) :
    Settles (fun d => named (field d) s) n f.inner := by
  obtain ⟨x, -, hx⟩ := exists_text_closed f.name
  have hparts (rest : List UInt8) : f.inner ++ rest = closed f.name ++ (f.behindName ++ rest) := by
    simp [Field.inner, Field.behindName, List.append_assoc]
  cases x with
  | error fault =>
    refine ⟨.error fault, fun d _ rest _ => ?_⟩
    rw [hparts]
    dsimp only [named]
    rw [hx]
    rfl
  | ok name =>
    obtain ⟨y, hy⟩ := h name
    refine ⟨y, fun d hd rest hrest => ?_⟩
    rw [hparts]
    dsimp only [named]
    rw [hx]
    exact hy d hd rest hrest

end

/-! ## The forms of a value -/

theorem Unsigned.exists_digit {bs : List UInt8} (h : Unsigned bs) :
    ∃ d t, bs = d :: t ∧ isDigit d = true := by
  cases h with
  | mk hds => exact ⟨_, _, rfl, hds.2 _ List.mem_cons_self⟩

/-- **What a well-formed value is**: a value without parts, of which something is read whatever
follows it, or a list, or an object. -/
inductive Form : Nat → List UInt8 → Prop
  | scalar {n b t} (hb : b ∉ [0x20, 0x0A, 0x09, 0x0D, 0x5D, 0x5B, 0x7B])
    (hnull : b = 0x6E → t = nullRest) (htext : b = 0x22 → ∃ ls, t = closed ls)
    (x : Except Fault Value)
    (h : ∀ rest, Stops rest → scalar? b (t ++ rest) = some (x.map (·, rest))) : Form n (b :: t)
  | list {n gap} (hgap : Blank gap) (ps : List Padded) (h : ∀ p ∈ ps, Spelled n p.core) :
    Form (n + 1) (listOf gap ps)
  | object {n gap} (hgap : Blank gap) (fs : List Field) (h : ∀ f ∈ fs, Spelled n f.value.core) :
    Form (n + 1) (objectOf gap fs)

theorem Spelled.form {n : Nat} {bs : List UInt8} (h : Spelled n bs) : Form n bs := by
  cases h with
  | null =>
    refine .scalar (by decide) (fun _ => rfl) (fun h => absurd h (by decide)) (.ok .null)
      fun rest _ => ?_
    rw [scalar?, if_pos rfl, keyword_append]
    rfl
  | yes =>
    refine .scalar (by decide) (fun h => absurd h (by decide)) (fun h => absurd h (by decide))
      (.ok (.bool true)) fun rest _ => ?_
    rw [scalar?, if_neg (by decide), if_pos rfl, keyword_append]
    rfl
  | no =>
    refine .scalar (by decide) (fun h => absurd h (by decide)) (fun h => absurd h (by decide))
      (.ok (.bool false)) fun rest _ => ?_
    rw [scalar?, if_neg (by decide), if_neg (by decide), if_pos rfl, keyword_append]
    rfl
  | negative h =>
    obtain ⟨x, hx⟩ := yields_number true h
    refine .scalar (by decide) (fun h => absurd h (by decide)) (fun h => absurd h (by decide))
      (x.map .num) fun rest hrest => ?_
    rw [scalar?, if_neg (by decide), if_neg (by decide), if_neg (by decide), if_pos rfl,
      hx rest hrest, map_map, map_map]
  | positive h =>
    obtain ⟨x, hx⟩ := yields_number false h
    obtain ⟨d, t, rfl, hd⟩ := h.exists_digit
    have hne {c : UInt8} (hc : isDigit c = false) : d ≠ c := isDigit_ne hd hc
    refine .scalar ?_ (fun h => absurd h (hne rfl)) (fun h => absurd h (hne rfl)) (x.map .num)
      fun rest hrest => ?_
    · simp [hne (c := 0x20) rfl, hne (c := 0x0A) rfl, hne (c := 0x09) rfl, hne (c := 0x0D) rfl,
        hne (c := 0x5D) rfl, hne (c := 0x5B) rfl, hne (c := 0x7B) rfl]
    · rw [scalar?_digit hd, ← List.cons_append, hx rest hrest, map_map, map_map]
  | text ls =>
    obtain ⟨x, -, hx⟩ := exists_text_closed ls
    refine .scalar (by decide) (fun h => absurd h (by decide)) (fun _ => ⟨ls, rfl⟩) (x.map .str)
      fun rest _ => ?_
    rw [scalar?, if_neg (by decide), if_neg (by decide), if_neg (by decide), if_neg (by decide),
      if_neg (by decide), if_pos rfl, hx, map_map, map_map]
  | list hgap ps h => exact .list hgap ps h
  | object hgap fs h => exact .object hgap fs h

theorem not_blank {b : UInt8} (h : b ∉ [0x20, 0x0A, 0x09, 0x0D, 0x5D, 0x5B, 0x7B]) :
    isBlankByte b = false := by
  simp only [List.mem_cons, List.not_mem_nil, or_false, not_or] at h
  simp [isBlankByte, h]

theorem ne_of_not_mem {b c : UInt8} {bs : List UInt8} (h : b ∉ bs) (hc : c ∈ bs) : b ≠ c :=
  fun heq => h (heq ▸ hc)

theorem Spelled.opens {n : Nat} {bs : List UInt8} (h : Spelled n bs) : Opens bs := by
  cases h.form with
  | scalar hb => exact ⟨_, _, rfl, not_blank hb, ne_of_not_mem hb (by decide)⟩
  | list => exact ⟨_, _, rfl, rfl, by decide⟩
  | object => exact ⟨_, _, rfl, rfl, by decide⟩

theorem listOf_append (gap : List UInt8) (ps : List Padded) (rest : List UInt8) :
    listOf gap ps ++ rest = 0x5B :: (gap ++ (listed true (ps.map Padded.bytes) ++ 0x5D :: rest)) := by
  simp [listOf, List.append_assoc]

theorem objectOf_append (gap : List UInt8) (fs : List Field) (rest : List UInt8) :
    objectOf gap fs ++ rest =
      0x7B :: (gap ++ (listed true (fs.map Field.bytes) ++ 0x7D :: rest)) := by
  simp [objectOf, List.append_assoc]

theorem skipsBlank_value (depth : Nat) : SkipsBlank (value depth) := fun bs => by
  rw [value_eq, value_eq, skipBlank_skipBlank]

theorem settles_keepLast {n : Nat} {f : Field} (h : Settles value n f.value.core) (m : Members)
    (name : String) : Settles (fun d => keepLast d m name) n f.behindName := by
  obtain ⟨x, hx⟩ := h.behindColon skipsBlank_value
  refine ⟨x.map fun v => Members.insert name v m, fun d hd rest hrest => ?_⟩
  have hread := hx d hd rest hrest
  dsimp only [keepLast] at hread ⊢
  rw [hread, map_map, map_map]

theorem exists_pred_of_lt {n d : Nat} (h : n < d) : ∃ e, d = e + 1 ∧ n ≤ e := by
  obtain ⟨e, rfl⟩ := Nat.exists_eq_succ_of_ne_zero (Nat.ne_of_gt (Nat.zero_lt_of_lt h))
  exact ⟨e, rfl, Nat.le_of_lt_succ h⟩

/-- **Values.** -/
theorem settles_value {n : Nat} {bs : List UInt8} (h : Spelled n bs) : Settles value n bs := by
  induction n using Nat.strongRecOn generalizing bs with
  | ind n ih =>
    cases h.form with
    | scalar hb _ _ x hx =>
      refine ⟨x, fun d _ rest hrest => ?_⟩
      rw [value_eq, List.cons_append, skipBlank_cons_of_not_blank (not_blank hb)]
      dsimp only
      rw [hx rest hrest]
    | @list n gap hgap ps hps =>
      refine ⟨(ps.mapM fun p => outcome (value n) p.core).map .arr, fun d hd rest _ => ?_⟩
      obtain ⟨d, rfl, hle⟩ := exists_pred_of_lt hd
      have hitems := items_listed (fun p hp => (hps p hp).opens)
        (fun p hp => (ih n (Nat.lt_succ_self n) (hps p hp)).yields hle) hgap rest
      rw [listOf_append, value_eq, skipBlank_cons_of_not_blank rfl]
      dsimp only
      rw [scalar?_list]
      dsimp only
      rw [if_pos rfl, hitems, map_map, map_map]
    | @object n gap hgap fs hfs =>
      refine ⟨(fs.foldlM (fun m f => outcome (named (keepLast n) m) f.inner) []).map .obj,
        fun d hd rest _ => ?_⟩
      obtain ⟨d, rfl, hle⟩ := exists_pred_of_lt hd
      have hfields := fields_listed (fun f hf m => (settles_named keepLast fun name =>
        settles_keepLast (ih n (Nat.lt_succ_self n) (hfs f hf)) m name).yields hle) [] hgap rest
      rw [objectOf_append, value_eq, skipBlank_cons_of_not_blank rfl]
      dsimp only
      rw [scalar?_object]
      dsimp only
      rw [if_neg (by decide), hfields, map_map, map_map]

/-! ## Values of a known type -/

theorem Spelled.eq_nullRest {n : Nat} {t : List UInt8} (h : Spelled n (0x6E :: t)) :
    t = nullRest := by
  generalize hbs : 0x6E :: t = bs at h
  cases h.form with
  | scalar _ hnull =>
    cases hbs
    exact hnull rfl
  | list => cases hbs
  | object => cases hbs

theorem Spelled.exists_closed {n : Nat} {t : List UInt8} (h : Spelled n (0x22 :: t)) :
    ∃ ls, t = closed ls := by
  generalize hbs : 0x22 :: t = bs at h
  cases h.form with
  | scalar _ _ htext =>
    cases hbs
    exact htext rfl
  | list => cases hbs
  | object => cases hbs

/-- The complaint about a value without parts, where `expected` was asked for. -/
def complaint (expected : String) : Except Fault Value → Fault
  | .error f => f
  | .ok .null => .wrongType .null expected
  | .ok (.bool b) => .wrongType (.bool b) expected
  | .ok (.num n) => .wrongType (.number n) expected
  | .ok (.str s) => .wrongType (.text s) expected
  | .ok _ => .noValue

/-- What is complained about does not depend on what follows it. -/
theorem exists_wrongType {n : Nat} {b : UInt8} {t : List UInt8} (h : Spelled n (b :: t))
    (expected : String) : ∃ f, ∀ rest, Stops rest → wrongType expected b (t ++ rest) = f := by
  generalize hbs : b :: t = bs at h
  cases h.form with
  | scalar hb _ _ x hx =>
    cases hbs
    refine ⟨complaint expected x, fun rest hrest => ?_⟩
    rw [wrongType, if_neg (ne_of_not_mem hb (by decide)), if_neg (ne_of_not_mem hb (by decide)),
      hx rest hrest]
    cases x with
    | error => rfl
    | ok v => cases v <;> rfl
  | list =>
    cases hbs
    exact ⟨_, fun _ _ => rfl⟩
  | object =>
    cases hbs
    exact ⟨_, fun _ _ => rfl⟩

section

variable {n : Nat} {bs : List UInt8}

/-- What complains about the type of a value settles. -/
theorem settles_of_wrongType {α : Type} {r : Nat → Reader α} {b : UInt8} {t : List UInt8}
    (h : Spelled n (b :: t)) (expected : String)
    (hr : ∀ d rest, r d (b :: (t ++ rest)) = .error (wrongType expected b (t ++ rest))) :
    Settles r n (b :: t) := by
  obtain ⟨f, hf⟩ := exists_wrongType h expected
  refine ⟨.error f, fun d _ rest hrest => ?_⟩
  rw [List.cons_append, hr, hf rest hrest]
  rfl

theorem skipsBlank_string : SkipsBlank string := fun bs => by
  rw [string, string, skipBlank_skipBlank]

theorem settles_string (h : Spelled n bs) : Settles (fun _ => string) n bs := by
  obtain ⟨b, t, rfl, hblank, -⟩ := h.opens
  have hskip (rest : List UInt8) : skipBlank (b :: t ++ rest) = b :: (t ++ rest) :=
    skipBlank_cons_of_not_blank hblank (t ++ rest)
  by_cases hb : b = 0x22
  · subst hb
    obtain ⟨ls, rfl⟩ := h.exists_closed
    obtain ⟨x, -, hx⟩ := exists_text_closed ls
    refine ⟨x, fun d _ rest _ => ?_⟩
    simp only [string, hskip]
    exact hx rest
  · refine settles_of_wrongType h "a string" fun _ rest => ?_
    simp only [string, skipBlank_cons_of_not_blank hblank, if_neg hb]

theorem skipsBlank_optional {α : Type} (r : Reader α) : SkipsBlank (optional r) := fun bs => by
  rw [optional, optional, skipBlank_skipBlank]

theorem settles_optional {α : Type} {r : Nat → Reader α} (h : Spelled n bs) (hr : Settles r n bs) :
    Settles (fun d => optional (r d)) n bs := by
  obtain ⟨x, hx⟩ := hr
  obtain ⟨b, t, rfl, hblank, -⟩ := h.opens
  have hskip (rest : List UInt8) : skipBlank (b :: t ++ rest) = b :: (t ++ rest) :=
    skipBlank_cons_of_not_blank hblank (t ++ rest)
  by_cases hb : b = 0x6E
  · subst hb
    obtain rfl := h.eq_nullRest
    refine ⟨.ok none, fun d _ rest _ => ?_⟩
    simp only [optional, hskip, keyword_append]
    rfl
  · refine ⟨x.map some, fun d hd rest hrest => ?_⟩
    simp only [optional, hskip]
    split
    case h_1 heq =>
      cases heq
      exact absurd rfl hb
    case h_2 =>
      have hread := hx d hd rest hrest
      rw [List.cons_append] at hread
      rw [hread, map_map, map_map]

theorem skipsBlank_sequence {α : Type} (depth : Nat) (item : Nat → Reader α) :
    SkipsBlank (sequence depth item) := fun bs => by
  rw [sequence, sequence, skipBlank_skipBlank]

/-- A list of what settles settles. -/
theorem settles_sequence {α : Type} {item : Nat → Reader α} (h : Spelled n bs)
    (hitem : ∀ {m bs}, m < n → Spelled m bs → Settles item m bs) :
    Settles (fun d => sequence d item) n bs := by
  have hother {b : UInt8} {t : List UInt8} (h : Spelled n (b :: t)) (hblank : isBlankByte b = false)
      (hb : b ≠ 0x5B) : Settles (fun d => sequence d item) n (b :: t) := by
    refine settles_of_wrongType h "a sequence" fun _ rest => ?_
    simp only [sequence, skipBlank_cons_of_not_blank hblank, if_neg hb]
  cases h.form with
  | scalar hb => exact hother h (not_blank hb) (ne_of_not_mem hb (by decide))
  | @list n gap hgap ps hps =>
    refine ⟨ps.mapM fun p => outcome (item n) p.core, fun d hd rest _ => ?_⟩
    obtain ⟨d, rfl, hle⟩ := exists_pred_of_lt hd
    have hitems := items_listed (fun p hp => (hps p hp).opens)
      (fun p hp => (hitem (Nat.lt_succ_self n) (hps p hp)).yields hle) hgap rest
    simp only [sequence]
    rw [listOf_append, skipBlank_cons_of_not_blank rfl]
    exact hitems
  | object => exact hother h rfl (by decide)

theorem settles_strings (h : Spelled n bs) : Settles strings n bs :=
  settles_sequence h fun _ => settles_string

end

/-! ## Documents -/

/-- A part with blanks around it is a whole document. -/
theorem complete_padded {α : Type} {r : Reader α} (hskips : SkipsBlank r) {p : Padded}
    {x : Except Fault α} (h : Yields r p.core x) : complete r p.bytes = x := by
  have hend : skipBlank p.trail = [] := by
    have hskip := skipBlank_append p.blank_trail []
    rwa [List.append_nil] at hskip
  have hstops : Stops p.trail := by
    have hstops := stops_nil.blank_append p.blank_trail
    rwa [List.append_nil] at hstops
  rw [Padded.bytes, List.append_assoc, complete, hskips.append p.blank_lead, h p.trail hstops]
  cases x with
  | error => rfl
  | ok a =>
    simp only [Except.map, bind, Except.bind]
    rw [hend]

end SigningKeys.Json
