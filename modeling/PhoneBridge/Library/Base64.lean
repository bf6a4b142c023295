import Mathlib.Data.List.TakeWhile
import Mathlib.Tactic.IntervalCases

/-!
# Base64

Bytes as text in the URL-safe alphabet without padding, a strict reader, and a lenient reader that
accepts correct padding and ignores the bits after the last whole byte; and a strict reader of padded
text in the standard alphabet.
-/

namespace PhoneBridge.Library.Base64

/-- The character of a sextet. -/
def symbol (n : Nat) : Char :=
  if n < 26 then Char.ofNat (65 + n)
  else if n < 52 then Char.ofNat (71 + n)
  else if n < 62 then Char.ofNat (n - 4)
  else if n = 62 then '-'
  else '_'

/-- The sextet of a character. -/
def sextet (c : Char) : Option Nat :=
  if 'A' ≤ c ∧ c ≤ 'Z' then some (c.toNat - 65)
  else if 'a' ≤ c ∧ c ≤ 'z' then some (c.toNat - 71)
  else if '0' ≤ c ∧ c ≤ '9' then some (c.toNat + 4)
  else if c = '-' then some 62
  else if c = '_' then some 63
  else none

/-- The sextets of some bytes; the last one is filled with zero bits. -/
def sextets : List UInt8 → List Nat
  | a :: b :: c :: rest =>
    a.toNat / 4 :: (a.toNat % 4 * 16 + b.toNat / 16) :: (b.toNat % 16 * 4 + c.toNat / 64) ::
      c.toNat % 64 :: sextets rest
  | [a, b] => [a.toNat / 4, a.toNat % 4 * 16 + b.toNat / 16, b.toNat % 16 * 4]
  | [a] => [a.toNat / 4, a.toNat % 4 * 16]
  | [] => []

/-- The bytes of some sextets; the bits left over must be zero unless the reader is lenient. -/
def bytes (lenient : Bool) : List Nat → Option (List UInt8)
  | a :: b :: c :: d :: rest =>
    (bytes lenient rest).map fun tail ↦
      UInt8.ofNat (a * 4 + b / 16) :: UInt8.ofNat (b % 16 * 16 + c / 4) ::
        UInt8.ofNat (c % 4 * 64 + d) :: tail
  | [a, b, c] =>
    if lenient ∨ c % 4 = 0 then
      some [UInt8.ofNat (a * 4 + b / 16), UInt8.ofNat (b % 16 * 16 + c / 4)]
    else none
  | [a, b] => if lenient ∨ b % 16 = 0 then some [UInt8.ofNat (a * 4 + b / 16)] else none
  | [_] => none
  | [] => some []

/-- The text of some bytes, without padding. -/
def encode (bs : List UInt8) : String := String.ofList ((sextets bs).map symbol)

/-- Read text without padding. -/
def decode (s : String) : Option (List UInt8) := do
  let digits ← s.toList.mapM sextet
  bytes false digits

/-- The characters before the padding, when the padding is absent or fills the last group. -/
def stripPadding (cs : List Char) : Option (List Char) :=
  let body := cs.takeWhile (· ≠ '=')
  let padding := cs.dropWhile (· ≠ '=')
  if padding = [] ∨ body.length % 4 = 2 ∧ padding = ['=', '='] ∨
      body.length % 4 = 3 ∧ padding = ['='] then some body
  else none

/-- Read text with or without padding, ignoring the bits after the last whole byte. -/
def decodeLenient (s : String) : Option (List UInt8) := do
  let body ← stripPadding s.toList
  let digits ← body.mapM sextet
  bytes true digits

/-- The sextet of a character of the standard alphabet. -/
def standardSextet (c : Char) : Option Nat :=
  if c = '+' then some 62
  else if c = '/' then some 63
  else if c = '-' ∨ c = '_' then none
  else sextet c

/-- The character of a sextet in the standard alphabet. -/
def standardSymbol (n : Nat) : Char :=
  if n = 62 then '+' else if n = 63 then '/' else symbol n

/-- The padding after some characters. -/
def padding (cs : List Char) : List Char := List.replicate ((4 - cs.length % 4) % 4) '='

/-- The padded text of some bytes in the standard alphabet. -/
def encodeStandard (bs : List UInt8) : List Char :=
  let body := (sextets bs).map standardSymbol
  body ++ padding body

/-- Read text of the standard alphabet, which must be padded. -/
def decodeStandard (cs : List Char) : Option (List UInt8) := do
  let body ← stripPadding cs
  let digits ← if cs.length % 4 = 0 then body.mapM standardSextet else none
  bytes false digits

/-! ## Round trips -/

theorem sextet_symbol {n : Nat} (h : n < 64) : sextet (symbol n) = some n := by
  interval_cases n <;> decide

theorem symbol_ne_padding {n : Nat} (h : n < 64) : symbol n ≠ '=' := by
  interval_cases n <;> decide

theorem sextets_lt (bs : List UInt8) : ∀ n ∈ sextets bs, n < 64 := by
  induction bs using sextets.induct with
  | case1 a b c rest ih =>
    have ha := a.toNat_lt
    have hb := b.toNat_lt
    have hc := c.toNat_lt
    simp only [sextets, List.mem_cons]
    rintro n (rfl | rfl | rfl | rfl | hn)
    · omega
    · omega
    · omega
    · omega
    · exact ih n hn
  | case2 a b =>
    have ha := a.toNat_lt
    have hb := b.toNat_lt
    simp only [sextets, List.mem_cons, List.not_mem_nil, or_false]
    rintro n (rfl | rfl | rfl) <;> omega
  | case3 a =>
    have ha := a.toNat_lt
    simp only [sextets, List.mem_cons, List.not_mem_nil, or_false]
    rintro n (rfl | rfl) <;> omega
  | case4 => simp [sextets]

/-- A byte is rebuilt from the two parts that neighbouring sextets carry. -/
theorem ofNat_eq {n : Nat} {b : UInt8} (h : n = b.toNat) : UInt8.ofNat n = b := by
  rw [h, UInt8.ofNat_toNat]

theorem bytes_sextets (lenient : Bool) (bs : List UInt8) : bytes lenient (sextets bs) = some bs := by
  induction bs using sextets.induct with
  | case1 a b c rest ih =>
    have ha := a.toNat_lt
    have hb := b.toNat_lt
    have hc := c.toNat_lt
    rw [sextets, bytes, ih]
    simp only [Option.map_some, Option.some.injEq, List.cons.injEq, and_true]
    refine ⟨ofNat_eq ?_, ofNat_eq ?_, ofNat_eq ?_⟩ <;> omega
  | case2 a b =>
    have ha := a.toNat_lt
    have hb := b.toNat_lt
    rw [sextets, bytes, if_pos (.inr (by omega))]
    simp only [Option.some.injEq, List.cons.injEq, and_true]
    refine ⟨ofNat_eq ?_, ofNat_eq ?_⟩ <;> omega
  | case3 a =>
    have ha := a.toNat_lt
    rw [sextets, bytes, if_pos (.inr (by omega))]
    simp only [Option.some.injEq, List.cons.injEq, and_true]
    refine ofNat_eq ?_
    omega
  | case4 => rfl

theorem mapM_sextet_symbol {digits : List Nat} (h : ∀ n ∈ digits, n < 64) :
    (digits.map symbol).mapM sextet = some digits := by
  induction digits with
  | nil => rfl
  | cons n digits ih =>
    have hn : sextet (symbol n) = some n := sextet_symbol (h n (by simp))
    have htail := ih fun m hm ↦ h m (by simp [hm])
    simp [hn, htail]

theorem stripPadding_symbols {digits : List Nat} (h : ∀ n ∈ digits, n < 64) :
    stripPadding (digits.map symbol) = some (digits.map symbol) := by
  have hclean : ∀ n ∈ digits, symbol n ≠ '=' := fun n hn ↦ symbol_ne_padding (h n hn)
  simpa [stripPadding] using And.intro (Or.inl hclean) hclean

/-- The strict reader reads back what was written. -/
@[simp]
theorem decode_encode (bs : List UInt8) : decode (encode bs) = some bs := by
  simp [decode, encode, mapM_sextet_symbol (sextets_lt bs), bytes_sextets]

/-- The lenient reader reads back what was written. -/
@[simp]
theorem decodeLenient_encode (bs : List UInt8) : decodeLenient (encode bs) = some bs := by
  simp [decodeLenient, encode, stripPadding_symbols (sextets_lt bs),
    mapM_sextet_symbol (sextets_lt bs), bytes_sextets]

/-! ## Padded text -/

theorem standardSextet_standardSymbol {n : Nat} (h : n < 64) :
    standardSextet (standardSymbol n) = some n := by
  interval_cases n <;> decide

theorem standardSymbol_ne_padding {n : Nat} (h : n < 64) : standardSymbol n ≠ '=' := by
  interval_cases n <;> decide

theorem symbol_sextet {c : Char} {n : Nat} (h : sextet c = some n) : n < 64 ∧ symbol n = c := by
  unfold sextet at h
  split_ifs at h with hupper hlower hdigit hminus hunderscore
  · obtain rfl : c.toNat - 65 = n := by simpa using h
    have hlow : 65 ≤ c.toNat := hupper.1
    have hhigh : c.toNat ≤ 90 := hupper.2
    have hback : 65 + (c.toNat - 65) = c.toNat := by omega
    refine ⟨by omega, ?_⟩
    rw [symbol, if_pos (by omega), hback, Char.ofNat_toNat]
  · obtain rfl : c.toNat - 71 = n := by simpa using h
    have hlow : 97 ≤ c.toNat := hlower.1
    have hhigh : c.toNat ≤ 122 := hlower.2
    have hback : 71 + (c.toNat - 71) = c.toNat := by omega
    refine ⟨by omega, ?_⟩
    rw [symbol, if_neg (by omega), if_pos (by omega), hback, Char.ofNat_toNat]
  · obtain rfl : c.toNat + 4 = n := by simpa using h
    have hlow : 48 ≤ c.toNat := hdigit.1
    have hhigh : c.toNat ≤ 57 := hdigit.2
    refine ⟨by omega, ?_⟩
    rw [symbol, if_neg (by omega), if_neg (by omega), if_pos (by omega), Nat.add_sub_cancel,
      Char.ofNat_toNat]
  · obtain rfl : 62 = n := by simpa using h
    exact ⟨by omega, hminus.symm⟩
  · obtain rfl : 63 = n := by simpa using h
    exact ⟨by omega, hunderscore.symm⟩

theorem standardSymbol_standardSextet {c : Char} {n : Nat} (h : standardSextet c = some n) :
    n < 64 ∧ standardSymbol n = c := by
  unfold standardSextet at h
  split_ifs at h with hplus hslash hurl
  · obtain rfl : 62 = n := by simpa using h
    exact ⟨by omega, hplus.symm⟩
  · obtain rfl : 63 = n := by simpa using h
    exact ⟨by omega, hslash.symm⟩
  · obtain ⟨hlt, hsymbol⟩ := symbol_sextet h
    have hne62 : n ≠ 62 := by
      rintro rfl
      exact hurl (.inl hsymbol.symm)
    have hne63 : n ≠ 63 := by
      rintro rfl
      exact hurl (.inr hsymbol.symm)
    exact ⟨hlt, by rw [standardSymbol, if_neg hne62, if_neg hne63, hsymbol]⟩

theorem length_sextets_mod (bs : List UInt8) : (sextets bs).length % 4 ≠ 1 := by
  induction bs using sextets.induct with
  | case1 a b c rest ih =>
    simp only [sextets, List.length_cons]
    omega
  | case2 a b => simp [sextets]
  | case3 a => simp [sextets]
  | case4 => simp [sextets]

theorem mapM_standardSextet {digits : List Nat} (h : ∀ n ∈ digits, n < 64) :
    (digits.map standardSymbol).mapM standardSextet = some digits := by
  induction digits with
  | nil => rfl
  | cons n digits ih =>
    have hn := standardSextet_standardSymbol (h n (by simp))
    have htail := ih fun m hm ↦ h m (by simp [hm])
    simp [hn, htail]

/-- Padded text is stripped to what it was padded from. -/
theorem stripPadding_append {body : List Char} (hclean : ∀ c ∈ body, c ≠ '=')
    (hlength : body.length % 4 ≠ 1) : stripPadding (body ++ padding body) = some body := by
  have hkeep : ∀ c ∈ body, decide (c ≠ '=') = true := fun c hc ↦ decide_eq_true (hclean c hc)
  have htake : (body ++ padding body).takeWhile (· ≠ '=') = body := by
    rw [List.takeWhile_append_of_pos hkeep, padding, List.takeWhile_replicate]
    simp
  have hdrop : (body ++ padding body).dropWhile (· ≠ '=') = padding body := by
    rw [List.dropWhile_append_of_pos hkeep, padding, List.dropWhile_replicate]
    simp
  have hrest : body.length % 4 = 0 ∨ body.length % 4 = 2 ∨ body.length % 4 = 3 := by omega
  rw [stripPadding, htake, hdrop, padding]
  rcases hrest with hzero | htwo | hthree
  · simp [hzero]
  · simp [htwo, List.replicate]
  · simp [hthree]

theorem length_append_padding (body : List Char) : (body ++ padding body).length % 4 = 0 := by
  rw [padding, List.length_append, List.length_replicate]
  omega

/-- The reader of padded text reads back what was written. -/
@[simp]
theorem decodeStandard_encodeStandard (bs : List UInt8) :
    decodeStandard (encodeStandard bs) = some bs := by
  have hlt := sextets_lt bs
  have hlength : ((sextets bs).map standardSymbol).length % 4 ≠ 1 := by
    simpa using length_sextets_mod bs
  have hclean : ∀ c ∈ (sextets bs).map standardSymbol, c ≠ '=' := by
    intro c hc
    obtain ⟨n, hn, rfl⟩ := List.mem_map.mp hc
    exact standardSymbol_ne_padding (hlt n hn)
  rw [decodeStandard, encodeStandard, stripPadding_append hclean hlength, Option.bind_eq_bind,
    Option.bind_some, if_pos (length_append_padding _), mapM_standardSextet hlt]
  exact bytes_sextets false bs

theorem toNat_ofNat_of_lt {n : Nat} (h : n < 256) : (UInt8.ofNat n).toNat = n := by
  rw [UInt8.toNat_ofNat', Nat.mod_eq_of_lt h]

theorem encodeStandard_eq_nil {bs : List UInt8} : encodeStandard bs = [] ↔ bs = [] := by
  constructor
  · intro h
    have hback := decodeStandard_encodeStandard bs
    rw [h] at hback
    exact (Option.some.inj hback).symm
  · rintro rfl
    rfl

/-- The characters of padded text are those of the alphabet and the padding. -/
theorem mem_encodeStandard {bs : List UInt8} {c : Char} (h : c ∈ encodeStandard bs) :
    c = '=' ∨ ∃ n < 64, c = standardSymbol n := by
  rw [encodeStandard, List.mem_append, List.mem_map] at h
  rcases h with ⟨n, hn, rfl⟩ | hpadding
  · exact .inr ⟨n, sextets_lt bs n hn, rfl⟩
  · exact .inl (List.eq_of_mem_replicate hpadding)

/-- The bytes of sextets determine them. -/
theorem sextets_bytes {digits : List Nat} {bs : List UInt8} (hlt : ∀ n ∈ digits, n < 64)
    (h : bytes false digits = some bs) : sextets bs = digits := by
  induction digits using bytes.induct false generalizing bs with
  | case1 a b c d rest ih =>
    simp only [List.mem_cons, forall_eq_or_imp] at hlt
    obtain ⟨ha, hb, hc, hd, hrest⟩ := hlt
    simp only [bytes, Option.map_eq_some_iff] at h
    obtain ⟨tail, htail, rfl⟩ := h
    rw [sextets, ih hrest htail, toNat_ofNat_of_lt (by omega), toNat_ofNat_of_lt (by omega),
      toNat_ofNat_of_lt (by omega)]
    simp only [List.cons.injEq, and_true]
    omega
  | case2 a b c hbits =>
    simp only [List.mem_cons, forall_eq_or_imp] at hlt
    obtain ⟨ha, hb, hc, -⟩ := hlt
    rw [bytes, if_pos hbits] at h
    obtain rfl := Option.some.inj h
    simp only [Bool.false_eq_true, false_or] at hbits
    rw [sextets, toNat_ofNat_of_lt (by omega), toNat_ofNat_of_lt (by omega)]
    simp only [List.cons.injEq, and_true]
    omega
  | case3 a b c hbits =>
    rw [bytes, if_neg hbits] at h
    cases h
  | case4 a b hbits =>
    simp only [List.mem_cons, forall_eq_or_imp] at hlt
    obtain ⟨ha, hb, -⟩ := hlt
    rw [bytes, if_pos hbits] at h
    obtain rfl := Option.some.inj h
    simp only [Bool.false_eq_true, false_or] at hbits
    rw [sextets, toNat_ofNat_of_lt (by omega)]
    simp only [List.cons.injEq, and_true]
    omega
  | case5 a b hbits =>
    rw [bytes, if_neg hbits] at h
    cases h
  | case6 a => simp [bytes] at h
  | case7 =>
    obtain rfl := Option.some.inj h
    rfl

/-- Characters that are read to sextets are what these are written as. -/
theorem map_of_mapM {read : Char → Option Nat} {write : Nat → Char}
    (hread : ∀ c n, read c = some n → n < 64 ∧ write n = c) {body : List Char} {digits : List Nat}
    (h : body.mapM read = some digits) : (∀ n ∈ digits, n < 64) ∧ digits.map write = body := by
  induction body generalizing digits with
  | nil =>
    obtain rfl : [] = digits := by simpa using h
    simp
  | cons c body ih =>
    simp only [List.mapM_cons, Option.bind_eq_bind, Option.bind_eq_some_iff] at h
    obtain ⟨n, hn, tail, htail, h⟩ := h
    obtain rfl : n :: tail = digits := by simpa using h
    obtain ⟨hlt, hsymbol⟩ := hread c n hn
    obtain ⟨htailLt, htailSymbols⟩ := ih htail
    exact ⟨List.forall_mem_cons.mpr ⟨hlt, htailLt⟩, by rw [List.map_cons, hsymbol, htailSymbols]⟩

/-- What the strict reader accepts is written as the same text. -/
theorem encode_of_decode {s : String} {bs : List UInt8} (h : decode s = some bs) :
    encode bs = s := by
  obtain ⟨digits, hdigits, hbytes⟩ := Option.bind_eq_some_iff.mp h
  obtain ⟨hlt, hsymbols⟩ := map_of_mapM (fun _ _ ↦ symbol_sextet) hdigits
  rw [encode, sextets_bytes hlt hbytes, hsymbols, String.ofList_toList]

/-- A text whose length is whole is what it is stripped to and the padding of that. -/
theorem eq_append_of_stripPadding {cs body : List Char} (h : stripPadding cs = some body)
    (hwhole : cs.length % 4 = 0) : body ++ padding body = cs := by
  have happend : cs.takeWhile (· ≠ '=') ++ cs.dropWhile (· ≠ '=') = cs :=
    List.takeWhile_append_dropWhile
  have hlength := congrArg List.length happend
  rw [List.length_append] at hlength
  simp only [stripPadding] at h
  split_ifs at h with hpadding
  obtain rfl := Option.some.inj h
  suffices hrest : cs.dropWhile (· ≠ '=') = padding (cs.takeWhile (· ≠ '=')) by
    rw [← hrest, happend]
  rw [padding]
  rcases hpadding with hnone | ⟨htwo, hpadding⟩ | ⟨hthree, hpadding⟩
  · have hzero : (cs.takeWhile (· ≠ '=')).length % 4 = 0 := by
      rw [hnone, List.length_nil] at hlength
      omega
    rw [hnone, hzero]
    rfl
  · rw [hpadding, htwo]
    rfl
  · rw [hpadding, hthree]
    rfl

/-- What is read from padded text is written as the same text. -/
theorem encodeStandard_of_decodeStandard {cs : List Char} {bs : List UInt8}
    (h : decodeStandard cs = some bs) : encodeStandard bs = cs := by
  simp only [decodeStandard, Option.bind_eq_bind, Option.bind_eq_some_iff] at h
  obtain ⟨body, hbody, h⟩ := h
  by_cases hwhole : cs.length % 4 = 0
  · rw [if_pos hwhole, Option.bind_eq_some_iff] at h
    obtain ⟨digits, hdigits, hbytes⟩ := h
    obtain ⟨hlt, hsymbols⟩ :=
      map_of_mapM (fun _ _ ↦ standardSymbol_standardSextet) hdigits
    rw [encodeStandard, sextets_bytes hlt hbytes, hsymbols]
    exact eq_append_of_stripPadding hbody hwhole
  · rw [if_neg hwhole] at h
    cases h

end PhoneBridge.Library.Base64
