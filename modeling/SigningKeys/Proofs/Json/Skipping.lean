import SigningKeys.Proofs.Json.Reading

/-!
# Skipping values

A well-formed value that nobody asked for is skipped, however deep it is.

* `skipNumber_append`, `skipText_closed`, `skipName_append`: the parts that are skipped;
* `resume`: what is done after a value;
* `Skips`, `resume_listed`: values that are skipped, and lists and objects of them;
* **`skipValue_append`**: a value is skipped, and nothing of what follows it.
-/

namespace SigningKeys.Json

/-! ## Numbers and strings -/

theorem Digits.skip {ds : List UInt8} (h : Digits ds) {rest : List UInt8}
    (hrest : ∀ b ∈ rest.head?, isDigit b = false) : skipDigits (ds ++ rest) = .ok rest := by
  rw [skipDigits, digits_append h.2 hrest]
  obtain ⟨d, ds, rfl⟩ := List.exists_cons_of_ne_nil h.1
  rfl

theorem skipExponent_digit {d : UInt8} (hd : isDigit d = true) (bs : List UInt8) :
    skipExponent (d :: bs) = skipDigits (d :: bs) := by
  have hplus : d ≠ 0x2B := isDigit_ne hd rfl
  have hminus : d ≠ 0x2D := isDigit_ne hd rfl
  simp [skipExponent, hplus, hminus]

theorem skipExponent_append {sign ds : List UInt8}
    (hsign : sign = [] ∨ sign = [0x2B] ∨ sign = [0x2D]) (hds : Digits ds) {rest : List UInt8}
    (hrest : Stops rest) : skipExponent (sign ++ ds ++ rest) = .ok rest := by
  have hskip := hds.skip hrest.not_isDigit
  rcases hsign with rfl | rfl | rfl
  · obtain ⟨d, ds, rfl⟩ := List.exists_cons_of_ne_nil hds.1
    exact (skipExponent_digit (hds.2 d List.mem_cons_self) (ds ++ rest)).trans hskip
  · exact hskip
  · exact hskip

theorem skipNumber_append {bs : List UInt8} (h : Unsigned bs) {rest : List UInt8}
    (hrest : Stops rest) : skipNumber (bs ++ rest) = .ok rest := by
  cases h with
  | @mk d ds es hds hzero hes =>
    rw [List.append_assoc, skipNumber, digits_append hds.2 (hes.not_isDigit hrest)]
    dsimp only
    rw [if_neg (not_leading_zero hzero)]
    cases hes with
    | whole hes =>
      cases hes with
      | none =>
        rw [List.nil_append]
        split
        case h_1 => exact absurd rfl (hrest.head_ne (c := 0x2E) (by decide))
        case h_2 => exact absurd rfl (hrest.head_ne (c := 0x65) (by decide))
        case h_3 => exact absurd rfl (hrest.head_ne (c := 0x45) (by decide))
        case h_4 => rfl
      | some he hsign hds =>
        rcases he with rfl | rfl <;> exact skipExponent_append hsign hds hrest
    | @fraction ds es hds hes =>
      simp only [List.cons_append, List.append_assoc]
      rw [hds.skip (hes.not_isDigit hrest)]
      cases hes with
      | none =>
        rw [List.nil_append]
        split
        case h_1 heq => cases heq
        case h_2 heq =>
          cases heq
          exact absurd rfl (hrest.head_ne (c := 0x65) (by decide))
        case h_3 heq =>
          cases heq
          exact absurd rfl (hrest.head_ne (c := 0x45) (by decide))
        case h_4 heq =>
          cases heq
          rfl
      | some he hsign hds =>
        rcases he with rfl | rfl <;> exact skipExponent_append hsign hds hrest

theorem skipText_closed (ls : List Letter) (rest : List UInt8) :
    skipText (closed ls ++ rest) = .ok rest := by
  induction ls with
  | nil =>
    rw [closed, List.flatMap_nil, List.nil_append, List.cons_append, skipText.eq_def]
    exact if_pos rfl
  | cons l ls ih =>
    rw [closed_cons, List.append_assoc]
    cases l with
    | plain b h =>
      rw [← ih]
      simp only [Letter.bytes, List.cons_append, List.nil_append]
      rw [skipText.eq_def]
      dsimp only
      rw [if_neg h.2.1, if_neg h.2.2, if_neg (UInt8.not_lt.2 h.1)]
    | short e h =>
      obtain ⟨c, hc⟩ := exists_shortEscape? h
      rw [← ih]
      simp only [Letter.bytes, List.cons_append, List.nil_append]
      rw [skipText.eq_def]
      simp [hc]
    | unit h₁ h₂ h₃ h₄ h =>
      obtain ⟨u, hu⟩ := exists_unit? h
      rw [← ih]
      simp only [Letter.bytes, List.cons_append, List.nil_append]
      rw [skipText.eq_def]
      simp [shortEscape?_u, hu]

theorem skipName_append (f : Field) (rest : List UInt8) {lead : List UInt8} (hlead : Blank lead) :
    skipName (lead ++ 0x22 :: (f.inner ++ rest)) =
      .ok (f.value.lead ++ (f.value.core ++ rest)) := by
  have hparts : f.inner ++ rest =
      closed f.name ++ (f.gap ++ 0x3A :: (f.value.lead ++ (f.value.core ++ rest))) := by
    simp [Field.inner, List.append_assoc]
  rw [skipName, skipBlank_append hlead, skipBlank_cons_of_not_blank rfl]
  dsimp only
  rw [if_pos rfl, hparts, skipText_closed]
  exact colon_append f.blank_gap _

/-! ## Open lists and objects -/

/-- What is done after a value, with the given frames open around it. -/
def resume (fuel : Nat) (frames : List Frame) (opened : Bool) (bs : List UInt8) :
    Except Fault (List UInt8) := do
  match ← closeFrames opened frames bs with
  | ([], rest) => .ok rest
  | (frames, rest) => skipFrom fuel frames rest

/-- The frame of a list or an object ends. -/
theorem resume_closer (fuel : Nat) (frames : List Frame) (frame : Frame) (opened : Bool)
    {gap : List UInt8} (hgap : Blank gap) (rest : List UInt8) :
    resume fuel (frame :: frames) opened (gap ++ frame.closer :: rest) =
      resume fuel frames false rest := by
  have hcloser : skipBlank (frame.closer :: rest) = frame.closer :: rest := by cases frame <;> rfl
  have hclose : closeFrames opened (frame :: frames) (gap ++ frame.closer :: rest) =
      closeFrames false frames rest := by
    rw [closeFrames, skipBlank_append hgap, hcloser]
    exact if_pos rfl
  rw [resume, hclose, resume]

/-- **A value that is skipped**: after it, what is around it goes on. -/
def Skips (bs : List UInt8) : Prop :=
  ∃ k < bs.length, ∀ fuel frames rest, Stops rest →
    skipFrom (k + 1 + fuel) frames (bs ++ rest) = resume fuel frames false rest

theorem skipFrom_blank (fuel : Nat) (frames : List Frame) {lead : List UInt8} (hlead : Blank lead)
    (bs : List UInt8) : skipFrom (fuel + 1) frames (lead ++ bs) = skipFrom (fuel + 1) frames bs := by
  rw [skipFrom, skipFrom, skipBlank_append hlead]

/-- A part of a list or an object that leads to a value: a comma unless it is the first, blanks, and
in an object a name. -/
def Enters {ι : Type} (frame : Frame) (bytes : ι → List UInt8) (value : ι → Padded) (i : ι) :
    Prop :=
  ∀ first gap, Blank gap → ∃ lead, Blank lead ∧ ∀ frames rest,
    closeFrames first (frame :: frames) (gap ++ (comma first ++ (bytes i ++ rest))) =
      .ok (frame :: frames, lead ++ ((value i).core ++ ((value i).trail ++ rest)))

/-- **A list or an object that is skipped**, behind its opening bracket. -/
theorem resume_listed {ι : Type} {frame : Frame} {bytes : ι → List UInt8} {value : ι → Padded}
    {is : List ι} (henters : ∀ i ∈ is, Enters frame bytes value i)
    (hlength : ∀ i ∈ is, (value i).core.length ≤ (bytes i).length)
    (hskips : ∀ i ∈ is, Skips (value i).core) (first : Bool) :
    ∃ k ≤ (listed first (is.map bytes)).length, ∀ fuel frames gap rest, Blank gap →
      resume (k + fuel) (frame :: frames) first
          (gap ++ (listed first (is.map bytes) ++ frame.closer :: rest)) =
        resume fuel frames false rest := by
  induction is generalizing first with
  | nil =>
    refine ⟨0, Nat.zero_le _, fun fuel frames gap rest hgap => ?_⟩
    rw [Nat.zero_add]
    exact resume_closer fuel frames frame first hgap rest
  | cons i is ih =>
    have hmem := fun j (hj : j ∈ is) => List.mem_cons_of_mem i hj
    obtain ⟨k, hk, hrest⟩ := ih (fun j hj => henters j (hmem j hj)) (fun j hj => hlength j (hmem j hj))
      (fun j hj => hskips j (hmem j hj)) false
    obtain ⟨l, hl, hskip⟩ := hskips i List.mem_cons_self
    have hbytes := hlength i List.mem_cons_self
    -- the fuel of the first value, one for the first value itself, and that of the others
    refine ⟨l + 1 + k, ?_, fun fuel frames gap rest hgap => ?_⟩
    · simp only [List.map_cons, listed_cons, List.length_append]
      omega
    · obtain ⟨lead, hlead, henter⟩ := henters i List.mem_cons_self first gap hgap
      have hparts : gap ++ (listed first ((i :: is).map bytes) ++ frame.closer :: rest) =
          gap ++ (comma first ++ (bytes i ++
            (listed false (is.map bytes) ++ frame.closer :: rest))) := by
        simp [listed_cons, List.append_assoc]
      have hstops : Stops ((value i).trail ++ (listed false (is.map bytes) ++
          frame.closer :: rest)) :=
        stops_listed (by cases frame <;> decide) (value i).blank_trail _ rest
      rw [hparts, resume, henter]
      dsimp only [bind, Except.bind]
      have hfuel : l + 1 + k + fuel = l + (k + fuel) + 1 := by omega
      rw [hfuel, skipFrom_blank _ _ hlead, ← hfuel, Nat.add_assoc (l + 1), hskip _ _ _ hstops]
      exact hrest fuel frames _ rest (value i).blank_trail

theorem enters_list {p : Padded} (hopens : Opens p.core) : Enters .list Padded.bytes id p := by
  intro first gap hgap
  have hparts (rest : List UInt8) :
      p.bytes ++ rest = p.lead ++ (p.core ++ (p.trail ++ rest)) := by
    simp [Padded.bytes, List.append_assoc]
  cases first with
  | true =>
    obtain ⟨b, t, hcore, hblank, hb⟩ := hopens
    refine ⟨[], blank_nil, fun frames rest => ?_⟩
    rw [closeFrames, skipBlank_append hgap, comma, if_pos rfl, List.nil_append, hparts,
      skipBlank_append p.blank_lead, hcore, List.cons_append, skipBlank_cons_of_not_blank hblank]
    simp [Frame.closer, hb, hcore]
  | false =>
    refine ⟨p.lead, p.blank_lead, fun frames rest => ?_⟩
    have hcomma : skipBlank (comma false ++ (p.bytes ++ rest)) = 0x2C :: (p.bytes ++ rest) := rfl
    rw [closeFrames, skipBlank_append hgap, hcomma, hparts]
    rfl

theorem enters_object (f : Field) : Enters .object Field.bytes Field.value f := by
  intro first gap hgap
  have hparts (rest : List UInt8) :
      f.bytes ++ rest = f.lead ++ 0x22 :: (f.inner ++ (f.value.trail ++ rest)) := by
    simp [Field.bytes, List.append_assoc]
  refine ⟨f.value.lead, f.value.blank_lead, fun frames rest => ?_⟩
  cases first with
  | true =>
    have hname := skipName_append f (f.value.trail ++ rest) blank_nil
    rw [closeFrames, skipBlank_append hgap, comma, if_pos rfl, List.nil_append, hparts,
      skipBlank_append f.blank_lead, skipBlank_cons_of_not_blank rfl]
    simp only [List.nil_append] at hname
    simp [Frame.closer, hname, bind, Except.bind]
  | false =>
    have hname := skipName_append (f := f) (f.value.trail ++ rest) f.blank_lead
    have hcomma : skipBlank (comma false ++ (f.bytes ++ rest)) = 0x2C :: (f.bytes ++ rest) := rfl
    rw [closeFrames, skipBlank_append hgap, hcomma, hparts]
    simp [Frame.closer, hname, bind, Except.bind]

/-! ## Values -/

/-- What the first byte of a value opens, or the text behind a value without parts. -/
def skipFirst (frames : List Frame) (b : UInt8) (bs : List UInt8) :
    Except Fault (Bool × List Frame × List UInt8) :=
  if b = 0x6E then (keyword nullRest bs).map (false, frames, ·)
  else if b = 0x74 then (keyword trueRest bs).map (false, frames, ·)
  else if b = 0x66 then (keyword falseRest bs).map (false, frames, ·)
  else if b = 0x2D then (skipNumber bs).map (false, frames, ·)
  else if isDigit b then (skipNumber (b :: bs)).map (false, frames, ·)
  else if b = 0x22 then (skipText bs).map (false, frames, ·)
  else if b = 0x5B then .ok (true, .list :: frames, bs)
  else if b = 0x7B then .ok (true, .object :: frames, bs)
  else .error .noValue

theorem skipFrom_cons {b : UInt8} (hblank : isBlankByte b = false) (fuel : Nat)
    (frames : List Frame) (bs : List UInt8) :
    skipFrom (fuel + 1) frames (b :: bs) =
      skipFirst frames b bs >>= fun p => resume fuel p.2.1 p.1 p.2.2 := by
  rw [skipFrom, skipBlank_cons_of_not_blank hblank, skipFirst]
  simp only [apply_ite
    (· >>= fun p : Bool × List Frame × List UInt8 => resume fuel p.2.1 p.1 p.2.2)]
  rfl

/-- A value without parts is skipped. -/
theorem skips_of_skipFirst {b : UInt8} {t : List UInt8} (hblank : isBlankByte b = false)
    (h : ∀ frames rest, Stops rest → skipFirst frames b (t ++ rest) = .ok (false, frames, rest)) :
    Skips (b :: t) := by
  refine ⟨0, Nat.zero_lt_succ _, fun fuel frames rest hrest => ?_⟩
  rw [Nat.zero_add, Nat.add_comm, List.cons_append, skipFrom_cons hblank, h frames rest hrest]
  rfl

/-- **Values are skipped**, however deep they are. -/
theorem skips_spelled {n : Nat} {bs : List UInt8} (h : Spelled n bs) : Skips bs := by
  induction h with
  | null =>
    refine skips_of_skipFirst rfl fun frames rest _ => ?_
    rw [skipFirst, if_pos rfl, keyword_append]
    rfl
  | yes =>
    refine skips_of_skipFirst rfl fun frames rest _ => ?_
    rw [skipFirst, if_neg (by decide), if_pos rfl, keyword_append]
    rfl
  | no =>
    refine skips_of_skipFirst rfl fun frames rest _ => ?_
    rw [skipFirst, if_neg (by decide), if_neg (by decide), if_pos rfl, keyword_append]
    rfl
  | negative h =>
    refine skips_of_skipFirst rfl fun frames rest hrest => ?_
    rw [skipFirst, if_neg (by decide), if_neg (by decide), if_neg (by decide), if_pos rfl,
      skipNumber_append h hrest]
    rfl
  | positive h =>
    obtain ⟨d, t, rfl, hd⟩ := h.exists_digit
    have hne {c : UInt8} (hc : isDigit c = false) : d ≠ c := isDigit_ne hd hc
    refine skips_of_skipFirst (isBlankByte_of_isDigit hd) fun frames rest hrest => ?_
    rw [skipFirst, if_neg (hne rfl), if_neg (hne rfl), if_neg (hne rfl), if_neg (hne rfl),
      if_pos hd, ← List.cons_append, skipNumber_append h hrest]
    rfl
  | text ls =>
    refine skips_of_skipFirst rfl fun frames rest _ => ?_
    rw [skipFirst, if_neg (by decide), if_neg (by decide), if_neg (by decide), if_neg (by decide),
      if_neg (by decide), if_pos rfl, skipText_closed]
    rfl
  | @list n gap hgap ps h ih =>
    have henters : ∀ p ∈ ps, Enters .list Padded.bytes id p :=
      fun p hp => enters_list (h p hp).opens
    obtain ⟨k, hk, hskip⟩ :=
      resume_listed henters (fun p _ => by simp [Padded.bytes]; omega) ih true
    refine ⟨k, ?_, fun fuel frames rest _ => ?_⟩
    · simp only [listOf, List.length_cons, List.length_append]
      omega
    · have hfuel : k + 1 + fuel = k + fuel + 1 := by omega
      rw [listOf_append, hfuel, skipFrom_cons rfl]
      exact hskip fuel frames gap rest hgap
  | @object n gap hgap fs h ih =>
    have henters : ∀ f ∈ fs, Enters .object Field.bytes Field.value f := fun f _ => enters_object f
    obtain ⟨k, hk, hskip⟩ :=
      resume_listed henters (fun f _ => by simp [Field.bytes, Field.inner]; omega) ih true
    refine ⟨k, ?_, fun fuel frames rest _ => ?_⟩
    · simp only [objectOf, List.length_cons, List.length_append]
      omega
    · have hfuel : k + 1 + fuel = k + fuel + 1 := by omega
      rw [objectOf_append, hfuel, skipFrom_cons rfl]
      exact hskip fuel frames gap rest hgap

/-- **A value that nobody asked for** is skipped, with the blanks before it and nothing behind it. -/
theorem skipValue_append {n : Nat} {lead core rest : List UInt8} (hlead : Blank lead)
    (h : Spelled n core) (hrest : Stops rest) : skipValue (lead ++ (core ++ rest)) = .ok rest := by
  obtain ⟨k, hk, hskip⟩ := skips_spelled h
  have hlength : k ≤ (lead ++ (core ++ rest)).length := by
    simp only [List.length_append]
    omega
  obtain ⟨fuel, hfuel⟩ := Nat.exists_eq_add_of_le hlength
  rw [skipValue, skipFrom_blank _ _ hlead, hfuel, Nat.add_right_comm, hskip fuel [] rest hrest]
  rfl

end SigningKeys.Json
