import Mathlib.Algebra.GroupWithZero.Nat
import SigningKeys.Base64Url
import SigningKeys.Proofs.Except
import SigningKeys.Proofs.Json.Written

/-!
# Texts that encode bytes

A text is read as numbers below 64, and the numbers are packed into bytes: four numbers into three
bytes, and a shorter last group into as many whole bytes as it holds.

* `alphabet`, `value?_eq_some_iff`: the symbols and their numbers;
* `pack?`, `decode_toOption`: reading a text is packing the numbers of its symbols;
* `unpack`, `pack?_eq_some_iff`: packing has one inverse;
* `Canonical`: texts that stand for bytes, said without the reader;
* **`decode_eq_ok_iff`, `exists_decode_iff`**: the text of the bytes is the only one that is read as
  them, and exactly the canonical texts are read.
-/

namespace SigningKeys.Base64Url

open Json

/-! ## Symbols -/

/-- The bytes of the alphabet in the order of their numbers: `A`–`Z`, `a`–`z`, `0`–`9`, `-` and
`_`. -/
def alphabet : List UInt8 :=
  (List.range' 0x41 26 ++ List.range' 0x61 26 ++ List.range' 0x30 10 ++ [0x2D, 0x5F]).map
    UInt8.ofNat

/-- The symbols of the alphabet stand at their numbers, and are read as them. -/
theorem symbol_idxOf : ∀ b ∈ alphabet, value? b = some (alphabet.idxOf b) ∧
    alphabet.idxOf b < 64 ∧ String.utf8EncodeChar (symbol (alphabet.idxOf b)) = [b] := by
  decide +kernel

theorem value?_of_alphabet {b : UInt8} (h : b ∈ alphabet) :
    value? b = some (alphabet.idxOf b) :=
  (symbol_idxOf b h).1

theorem value?_of_not_mem {b : UInt8} (h : b ∉ alphabet) : value? b = none := by
  have hcode : b.toNat ∉ List.range' 0x41 26 ++ List.range' 0x61 26 ++ List.range' 0x30 10 ++
      [0x2D, 0x5F] := fun hb => h (List.mem_map.2 ⟨_, hb, UInt8.ofNat_toNat⟩)
  simp only [List.mem_append, List.mem_range'_1, List.mem_cons, List.not_mem_nil, or_false,
    not_or] at hcode
  simp only [value?, Bool.and_eq_true, decide_eq_true_eq]
  split_ifs <;> first | rfl | omega

theorem value?_pad : value? pad = none := rfl

theorem value?_isSome_iff {b : UInt8} : (∃ n, value? b = some n) ↔ b ∈ alphabet := by
  constructor
  · rintro ⟨n, hn⟩
    by_contra hb
    rw [value?_of_not_mem hb] at hn
    cases hn
  · exact fun hb => ⟨_, value?_of_alphabet hb⟩

theorem utf8EncodeChar_symbol {n : Nat} (h : n < 64) :
    ∃ b, String.utf8EncodeChar (symbol n) = [b] ∧ value? b = some n := by
  have hall : ∀ n < 64, (String.utf8EncodeChar (symbol n)).map value? = [some n] := by
    decide +kernel
  obtain ⟨b, hb, hv⟩ := List.map_eq_singleton_iff.1 (hall n h)
  exact ⟨b, hb, hv⟩

theorem utf8EncodeChar_of_value? {b : UInt8} {n : Nat} (h : value? b = some n) :
    n < 64 ∧ String.utf8EncodeChar (symbol n) = [b] := by
  obtain ⟨hvalue, hlt, hb⟩ := symbol_idxOf b (value?_isSome_iff.1 ⟨n, h⟩)
  obtain rfl : n = alphabet.idxOf b := Option.some.inj (h.symm.trans hvalue)
  exact ⟨hlt, hb⟩

/-- Bytes are read as numbers exactly if they are the bytes of the symbols of these numbers. -/
theorem mapM_value?_eq_some_iff {bs : List UInt8} {ns : List Nat} :
    bs.mapM value? = some ns ↔ (∀ n ∈ ns, n < 64) ∧ bs = utf8 (ns.map symbol) := by
  induction bs generalizing ns with
  | nil =>
    rw [List.mapM_nil]
    constructor
    · intro h
      cases h
      exact ⟨nofun, rfl⟩
    · rintro ⟨hlt, h⟩
      cases ns with
      | nil => rfl
      | cons n ns =>
        obtain ⟨b, hb, -⟩ := utf8EncodeChar_symbol (hlt n List.mem_cons_self)
        rw [List.map_cons, utf8_cons, hb] at h
        cases h
  | cons b bs ih =>
    rw [List.mapM_cons]
    constructor
    · intro h
      obtain ⟨n, hn, h⟩ := Option.bind_eq_some_iff.1 h
      obtain ⟨ns', hns, h⟩ := Option.bind_eq_some_iff.1 h
      cases h
      obtain ⟨hlt, hb⟩ := utf8EncodeChar_of_value? hn
      obtain ⟨hall, hbs⟩ := ih.1 hns
      exact ⟨List.forall_mem_cons.2 ⟨hlt, hall⟩, by rw [List.map_cons, utf8_cons, hb, ← hbs]; rfl⟩
    · rintro ⟨hlt, h⟩
      cases ns with
      | nil => cases h
      | cons n ns =>
        obtain ⟨hn, hall⟩ := List.forall_mem_cons.1 hlt
        obtain ⟨b', hb, hv⟩ := utf8EncodeChar_symbol hn
        rw [List.map_cons, utf8_cons, hb, List.singleton_append, List.cons.injEq] at h
        obtain ⟨rfl, hbs⟩ := h
        rw [hv, ih.2 ⟨hall, hbs⟩]
        rfl

theorem length_of_mapM {α β : Type} {f : α → Option β} {as : List α} {bs : List β}
    (h : as.mapM f = some bs) : as.length = bs.length := by
  induction as generalizing bs with
  | nil => cases h; rfl
  | cons a as ih =>
    rw [List.mapM_cons] at h
    obtain ⟨b, -, h⟩ := Option.bind_eq_some_iff.1 h
    obtain ⟨bs', hbs, h⟩ := Option.bind_eq_some_iff.1 h
    cases h
    rw [List.length_cons, List.length_cons, ih hbs]

/-! ## Packing -/

/-- The bytes of numbers below 64. A last group of one number has none, and the bits of the last
number that belong to no byte are zero. -/
def pack? : List Nat → Option (List UInt8)
  | [] => some []
  | [_] => none
  | [a, b] => if b % 16 = 0 then some [UInt8.ofNat (a * 4 + b / 16)] else none
  | [a, b, c] =>
    if c % 4 = 0 then some [UInt8.ofNat (a * 4 + b / 16), UInt8.ofNat (b % 16 * 16 + c / 4)]
    else none
  | a :: b :: c :: d :: rest =>
    let n := ((a * 64 + b) * 64 + c) * 64 + d
    (pack? rest).map fun out =>
      UInt8.ofNat (n / 65536) :: UInt8.ofNat (n / 256) :: UInt8.ofNat n :: out

/-- The numbers of bytes. -/
def unpack : List UInt8 → List Nat
  | a :: b :: c :: rest =>
    let n := (a.toNat * 256 + b.toNat) * 256 + c.toNat
    n / 262144 :: n / 4096 % 64 :: n / 64 % 64 :: n % 64 :: unpack rest
  | [a, b] =>
    let n := a.toNat * 256 + b.toNat
    [n / 1024, n / 16 % 64, n % 16 * 4]
  | [a] => [a.toNat / 4, a.toNat % 4 * 16]
  | [] => []

theorem symbols_eq (out : List UInt8) : symbols out = (unpack out).map symbol := by
  induction out using symbols.induct with
  | case1 a b c rest ih => rw [symbols, unpack, ih]; rfl
  | case2 => rfl
  | case3 => rfl
  | case4 => rfl

theorem unpack_lt (out : List UInt8) : ∀ n ∈ unpack out, n < 64 := by
  induction out using unpack.induct with
  | case1 a b c rest ih =>
    have ha := a.toNat_lt
    have hb := b.toNat_lt
    have hc := c.toNat_lt
    simp only [unpack, List.forall_mem_cons]
    exact ⟨by omega, by omega, by omega, by omega, ih⟩
  | case2 a b =>
    have ha := a.toNat_lt
    have hb := b.toNat_lt
    simp only [unpack, List.forall_mem_cons]
    exact ⟨by omega, by omega, by omega, nofun⟩
  | case3 a =>
    have ha := a.toNat_lt
    simp only [unpack, List.forall_mem_cons]
    exact ⟨by omega, by omega, nofun⟩
  | case4 => exact nofun

theorem ofNat_eq_iff {n : Nat} {b : UInt8} : UInt8.ofNat n = b ↔ n % 256 = b.toNat := by
  rw [← UInt8.toNat_inj, UInt8.toNat_ofNat']

theorem pack?_unpack (out : List UInt8) : pack? (unpack out) = some out := by
  induction out using unpack.induct with
  | case1 a b c rest ih =>
    have ha := a.toNat_lt
    have hb := b.toNat_lt
    have hc := c.toNat_lt
    rw [unpack, pack?, ih, Option.map_some]
    congr 2
    · exact ofNat_eq_iff.2 (by omega)
    · congr 1
      · exact ofNat_eq_iff.2 (by omega)
      · congr 1
        exact ofNat_eq_iff.2 (by omega)
  | case2 a b =>
    have ha := a.toNat_lt
    have hb := b.toNat_lt
    rw [unpack, pack?, if_pos (by omega)]
    congr 2
    · exact ofNat_eq_iff.2 (by omega)
    · congr 1
      exact ofNat_eq_iff.2 (by omega)
  | case3 a =>
    have ha := a.toNat_lt
    rw [unpack, pack?, if_pos (by omega)]
    congr 2
    exact ofNat_eq_iff.2 (by omega)
  | case4 => rfl

theorem unpack_of_pack? {ns : List Nat} {out : List UInt8} (hlt : ∀ n ∈ ns, n < 64)
    (h : pack? ns = some out) : unpack out = ns := by
  induction ns using pack?.induct generalizing out with
  | case1 => cases h; rfl
  | case2 a => cases h
  | case3 a b hzero =>
    rw [pack?, if_pos hzero, Option.some.injEq] at h
    subst h
    simp only [List.forall_mem_cons] at hlt
    simp only [unpack, UInt8.toNat_ofNat', List.cons.injEq, and_true]
    omega
  | case4 a b hzero =>
    rw [pack?, if_neg hzero] at h
    cases h
  | case5 a b c hzero =>
    rw [pack?, if_pos hzero, Option.some.injEq] at h
    subst h
    simp only [List.forall_mem_cons] at hlt
    simp only [unpack, UInt8.toNat_ofNat', List.cons.injEq, and_true]
    omega
  | case6 a b c hzero =>
    rw [pack?, if_neg hzero] at h
    cases h
  | case7 a b c d rest ih =>
    rw [pack?] at h
    obtain ⟨out', hout, rfl⟩ := Option.map_eq_some_iff.1 h
    simp only [List.forall_mem_cons] at hlt
    obtain ⟨ha, hb, hc, hd, hrest⟩ := hlt
    simp only [unpack, UInt8.toNat_ofNat', List.cons.injEq]
    exact ⟨by omega, by omega, by omega, by omega, ih hrest hout⟩

/-- Packing and its inverse. -/
theorem pack?_eq_some_iff {ns : List Nat} {out : List UInt8} (hlt : ∀ n ∈ ns, n < 64) :
    pack? ns = some out ↔ ns = unpack out :=
  ⟨fun h => (unpack_of_pack? hlt h).symm, fun h => h ▸ pack?_unpack out⟩

theorem pack?_isSome_iff {ns : List Nat} :
    (∃ out, pack? ns = some out) ↔
      ns.length % 4 ≠ 1 ∧ ∀ n ∈ ns.getLast?, n % 2 ^ (6 * ns.length % 8) = 0 := by
  induction ns using pack?.induct with
  | case1 => simp [pack?]
  | case2 a => simp [pack?]
  | case3 a b hzero => simp [pack?, hzero]
  | case4 a b hzero => simp [pack?, hzero]
  | case5 a b c hzero => simp [pack?, hzero]
  | case6 a b c hzero => simp [pack?, hzero]
  | case7 a b c d rest ih =>
    have hsome : (∃ out, pack? (a :: b :: c :: d :: rest) = some out) ↔
        ∃ out, pack? rest = some out := by
      simp [pack?]
    rw [hsome, ih]
    cases rest with
    | nil => simp [Nat.mod_one]
    | cons e rest =>
      have hlength : (a :: b :: c :: d :: e :: rest).length = (e :: rest).length + 4 := rfl
      have hmod : 6 * ((e :: rest).length + 4) % 8 = 6 * (e :: rest).length % 8 := by omega
      rw [hlength, hmod, Nat.add_mod_right]
      simp only [List.getLast?_cons_cons]

/-! ## Reading -/

theorem values_toOption (offset : Nat) (bs : List UInt8) :
    (values offset bs).toOption = bs.mapM value? := by
  induction bs generalizing offset with
  | nil => rfl
  | cons b bs ih =>
    rw [values, List.mapM_cons]
    cases value? b with
    | none => rfl
    | some n =>
      rw [toOption_map, ih]
      cases bs.mapM value? <;> rfl

/-- A last group without padding is read as the numbers of its symbols. Every other one has a byte
that is no symbol. -/
theorem lastGroup_eq (start place : Nat) (bs : List UInt8) :
    bs.mapM value? = match lastGroup start place bs with
      | .ok (last, false) => some (last.map Prod.snd)
      | _ => none := by
  induction bs generalizing place with
  | nil => rfl
  | cons b bs ih =>
    rw [lastGroup, List.mapM_cons]
    by_cases hpad : b = pad
    · rw [if_pos hpad, hpad, value?_pad]
      split_ifs <;> rfl
    · rw [if_neg hpad]
      cases value? b with
      | none => rfl
      | some n =>
        rw [ih (place + 1)]
        rcases lastGroup start (place + 1) bs with f | ⟨last, _ | _⟩ <;> rfl

theorem pack?_append {front last : List Nat} (h : front.length % 4 = 0) :
    pack? (front ++ last) = (pack? last).map (bytes front ++ ·) := by
  induction front using bytes.induct with
  | case1 a b c d rest ih =>
    have hrest : rest.length % 4 = 0 := by
      rw [List.length_cons, List.length_cons, List.length_cons, List.length_cons] at h
      omega
    rw [List.cons_append, List.cons_append, List.cons_append, List.cons_append, pack?, ih hrest,
      bytes, Option.map_map]
    rfl
  | case2 front hshort =>
    rcases front with - | ⟨a, - | ⟨b, - | ⟨c, - | ⟨d, rest⟩⟩⟩⟩
    · cases h' : pack? last <;> simp [bytes, h']
    · cases h
    · cases h
    · cases h
    · exact absurd rfl (hshort a b c d rest)

/-- A last group of two to four numbers, or no group at all. -/
theorem pack?_eq_lastBytes {ns : List Nat} (h1 : ns.length ≠ 1) (h4 : ns.length ≤ 4) :
    pack? ns = if (lastBytes ns).2 = 0 then some (lastBytes ns).1 else none := by
  rcases ns with - | ⟨a, - | ⟨b, - | ⟨c, - | ⟨d, - | ⟨e, rest⟩⟩⟩⟩⟩
  · rfl
  · exact absurd rfl h1
  · rfl
  · rfl
  · rfl
  · simp only [List.length_cons] at h4
    omega

/-- A text with a stray last byte stands for no bytes. -/
theorem bind_pack?_of_stray {bs : List UInt8} {b : UInt8} (h : strayByte? bs = some b) :
    (bs.mapM value?).bind pack? = none := by
  have hlength : bs.length % 4 = 1 := by
    by_contra hne
    rw [strayByte?, if_neg hne] at h
    cases h
  refine Option.bind_eq_none_iff.2 fun ns hns => ?_
  refine Option.eq_none_iff_forall_ne_some.2 fun out hout => ?_
  exact (pack?_isSome_iff.1 ⟨out, hout⟩).1 (length_of_mapM hns ▸ hlength)

/-- The end of reading: a last group that is long enough is packed behind the bytes in front. -/
theorem last_toOption {last : List (UInt8 × Nat)} (h1 : last.length ≠ 1) (h4 : last.length ≤ 4)
    (front : List UInt8) (offset : Nat) :
    Except.toOption (match lastBytes (last.map Prod.snd), last.getLast? with
      | (tail, 0), _ => .ok (front ++ tail)
      | (tail, _ + 1), none => .ok (front ++ tail)
      | (_, _ + 1), some (b, _) => .error (Fault.badLastSymbol b offset)) =
        (pack? (last.map Prod.snd)).map (front ++ ·) := by
  rw [pack?_eq_lastBytes (by rwa [List.length_map]) (by rwa [List.length_map])]
  rcases hbytes : lastBytes (last.map Prod.snd) with ⟨tail, _ | r⟩
  · rfl
  · cases hend : last.getLast? with
    | some e => rfl
    | none =>
      rw [List.getLast?_eq_none_iff] at hend
      subst hend
      cases hbytes

/-- **Reading a text** is packing the numbers of its symbols. -/
theorem decode_toOption (bs : List UInt8) :
    (decode bs).toOption = (bs.mapM value?).bind pack? := by
  rw [decode]
  cases hstray : strayByte? bs with
  | some b => exact (bind_pack?_of_stray hstray).symm
  | none =>
    dsimp only
    set start := (bs.length - 1) / 4 * 4 with hstart
    have hsplit : bs.mapM value? =
        (do return (← (bs.take start).mapM value?) ++ (← (bs.drop start).mapM value?)) := by
      rw [← List.mapM_append, List.take_append_drop]
    have hvalues := values_toOption 0 (bs.take start)
    have hgroup := lastGroup_eq start 0 (bs.drop start)
    rw [hsplit]
    cases hfront : values 0 (bs.take start) with
    | error f =>
      rw [hfront] at hvalues
      rw [← hvalues]
      rfl
    | ok front =>
      rw [hfront] at hvalues
      rw [← hvalues]
      rcases hlast : lastGroup start 0 (bs.drop start) with f | ⟨last, _ | _⟩
      · rw [hlast] at hgroup
        rw [hgroup]
        rfl
      · rw [hlast] at hgroup
        have hf : front.length % 4 = 0 := by
          rw [← length_of_mapM hvalues.symm, List.length_take]
          omega
        have hl : last.length = bs.length - start := by
          have := length_of_mapM hgroup
          rw [List.length_drop, List.length_map] at this
          exact this.symm
        have hpacked : ((do return (← (Except.ok (ε := Fault) front).toOption) ++
            (← some (last.map Prod.snd))) >>= pack?) =
              (pack? (last.map Prod.snd)).map (bytes front ++ ·) :=
          pack?_append hf
        rw [hgroup]
        refine Eq.trans ?_ hpacked.symm
        dsimp only
        by_cases hone : last.length = 1
        · have hempty : bs.isEmpty = false := by
            rw [List.isEmpty_eq_false_iff, ← List.length_pos_iff]
            omega
          obtain ⟨e, rfl⟩ := List.length_eq_one_iff.1 hone
          rw [hempty]
          rfl
        · have hlong : ¬ (!bs.isEmpty && decide (last.length < 2)) = true := by
            simp only [Bool.and_eq_true, Bool.not_eq_true', List.isEmpty_eq_false_iff,
              decide_eq_true_eq, ← List.length_pos_iff]
            omega
          rw [if_neg hlong, if_neg Bool.false_ne_true]
          exact last_toOption hone (by omega) _ _
      · rw [hlast] at hgroup
        rw [hgroup]
        dsimp only
        rw [if_pos rfl]
        split_ifs <;> rfl

/-- **The text of bytes** is the only one that is read as them. -/
theorem decode_eq_ok_iff {bs out : List UInt8} :
    decode bs = .ok out ↔ bs = utf8 (symbols out) := by
  rw [← toOption_eq_some_iff, decode_toOption, Option.bind_eq_some_iff, symbols_eq]
  constructor
  · rintro ⟨ns, hns, hpack⟩
    obtain ⟨hlt, hbs⟩ := mapM_value?_eq_some_iff.1 hns
    rwa [← (pack?_eq_some_iff hlt).1 hpack]
  · intro h
    exact ⟨unpack out, mapM_value?_eq_some_iff.2 ⟨unpack_lt out, h⟩, pack?_unpack out⟩

theorem decode_encode (out : List UInt8) : decode (Json.encode (encode out)) = .ok out :=
  decode_eq_ok_iff.2 (encode_ofList _)

/-! ## Texts that stand for bytes -/

/-- A text that stands for bytes. -/
structure Canonical (bs : List UInt8) : Prop where
  /-- All its bytes are in the alphabet; padding is not. -/
  symbols : ∀ b ∈ bs, b ∈ alphabet
  length : bs.length % 4 ≠ 1
  /-- Six bits a symbol: those that fill no byte are the low bits of the last symbol, and zero. -/
  last : ∀ b ∈ bs.getLast?, alphabet.idxOf b % 2 ^ (6 * bs.length % 8) = 0

theorem getLast?_of_mapM {α β : Type} {f : α → Option β} {as : List α} {bs : List β}
    (h : as.mapM f = some bs) : bs.getLast? = as.getLast?.bind f := by
  induction as using List.reverseRecOn generalizing bs with
  | nil => cases h; rfl
  | append_singleton as a ih =>
    rw [List.mapM_append] at h
    obtain ⟨front, -, h⟩ := Option.bind_eq_some_iff.1 h
    obtain ⟨tail, htail, h⟩ := Option.bind_eq_some_iff.1 h
    cases h
    rw [List.mapM_cons] at htail
    obtain ⟨b, hb, h⟩ := Option.bind_eq_some_iff.1 htail
    cases h
    rw [List.getLast?_append, List.getLast?_append]
    exact hb.symm

theorem exists_mapM_iff {α β : Type} {f : α → Option β} {as : List α} :
    (∃ bs, as.mapM f = some bs) ↔ ∀ a ∈ as, ∃ b, f a = some b := by
  induction as with
  | nil => simp
  | cons a as ih =>
    rw [List.mapM_cons, List.forall_mem_cons, ← ih]
    simp [Option.bind_eq_some_iff]

/-- **Exactly the canonical texts are read.** -/
theorem exists_decode_iff {bs : List UInt8} : (∃ out, decode bs = .ok out) ↔ Canonical bs := by
  simp only [← toOption_eq_some_iff, decode_toOption, Option.bind_eq_some_iff]
  constructor
  · rintro ⟨out, ns, hns, hpack⟩
    obtain ⟨hlength, hlast⟩ := pack?_isSome_iff.1 ⟨out, hpack⟩
    have hall : ∀ b ∈ bs, b ∈ alphabet := fun b hb =>
      value?_isSome_iff.1 (exists_mapM_iff.1 ⟨ns, hns⟩ b hb)
    refine ⟨hall, length_of_mapM hns ▸ hlength, fun b hb => ?_⟩
    rw [length_of_mapM hns]
    refine hlast _ ?_
    rw [getLast?_of_mapM hns, hb]
    exact value?_of_alphabet (hall b (List.mem_of_getLast? hb))
  · intro h
    obtain ⟨ns, hns⟩ := exists_mapM_iff.2 fun b hb => value?_isSome_iff.2 (h.symbols b hb)
    have hpacked : ∃ out, pack? ns = some out := by
      refine pack?_isSome_iff.2 ⟨length_of_mapM hns ▸ h.length, fun n hn => ?_⟩
      rw [getLast?_of_mapM hns] at hn
      obtain ⟨b, hb, hvalue⟩ := Option.bind_eq_some_iff.1 hn
      rw [value?_of_alphabet (h.symbols b (List.mem_of_getLast? hb)), Option.some.injEq] at hvalue
      rw [← length_of_mapM hns, ← hvalue]
      exact h.last b hb
    obtain ⟨out, hout⟩ := hpacked
    exact ⟨out, ns, hns, hout⟩

end SigningKeys.Base64Url
