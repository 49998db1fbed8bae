import TokenAuth.Text.Base64

/-!
The characters of base64 text are visible ASCII characters, and none of them is a dot or a pad. Padded
text is read back as the bytes it was written for. Unpadded text is read as some bytes only if it is what
these bytes are written as, so no two texts are read as the same bytes.
-/
namespace TokenAuth.Text.Base64

theorem symbol_of_ge (a : Alphabet) (n : Nat) (h : 63 ≤ n) : a.symbol n = a.extra.2 := by
  unfold Alphabet.symbol
  rw [if_neg (by omega), if_neg (by omega), if_neg (by omega), if_neg (by omega)]

/-- What holds of the 64 characters of an alphabet holds of every symbol. -/
theorem symbol_induction (a : Alphabet) {P : Char → Prop} (h : ∀ k : Fin 64, P (a.symbol k.val))
    (n : Nat) : P (a.symbol n) := by
  by_cases hn : n < 63
  · exact h ⟨n, by omega⟩
  · rw [symbol_of_ge a n (by omega), ← symbol_of_ge a 63 (by omega)]
    exact h ⟨63, by omega⟩

theorem symbol_visible (a : Alphabet) (n : Nat) :
    33 ≤ (a.symbol n).toNat ∧ (a.symbol n).toNat ≤ 126 := by
  apply symbol_induction a (P := fun c => 33 ≤ c.toNat ∧ c.toNat ≤ 126)
  cases a <;> decide

theorem symbol_ne_dot (a : Alphabet) (n : Nat) : a.symbol n ≠ '.' := by
  apply symbol_induction a (P := fun c => c ≠ '.')
  cases a <;> decide

theorem symbol_ne_pad (a : Alphabet) (n : Nat) : a.symbol n ≠ '=' := by
  apply symbol_induction a (P := fun c => c ≠ '=')
  cases a <;> decide

theorem exists_symbol_of_mem_encode {a : Alphabet} {bs : List UInt8} {c : Char}
    (h : c ∈ encode a bs) : ∃ n, c = a.symbol n := by
  induction bs using encode.induct with
  | case1 => simp [encode] at h
  | case2 x =>
    simp only [encode, List.mem_cons, List.not_mem_nil, or_false] at h
    rcases h with rfl | rfl <;> exact ⟨_, rfl⟩
  | case3 x y =>
    simp only [encode, List.mem_cons, List.not_mem_nil, or_false] at h
    rcases h with rfl | rfl | rfl <;> exact ⟨_, rfl⟩
  | case4 x y z r ih =>
    simp only [encode, List.mem_cons] at h
    rcases h with rfl | rfl | rfl | rfl | h
    · exact ⟨_, rfl⟩
    · exact ⟨_, rfl⟩
    · exact ⟨_, rfl⟩
    · exact ⟨_, rfl⟩
    · exact ih h

theorem dot_not_mem_encode (a : Alphabet) (bs : List UInt8) : '.' ∉ encode a bs := by
  intro h
  obtain ⟨n, hn⟩ := exists_symbol_of_mem_encode h
  exact symbol_ne_dot a n hn.symm

theorem encode_ne_nil (a : Alphabet) {bs : List UInt8} (h : bs ≠ []) : encode a bs ≠ [] := by
  cases bs using encode.induct <;> simp_all [encode]

theorem decodePadded_encodePadded (a : Alphabet) (bs : List UInt8) :
    decodePadded a (encodePadded a bs) = some bs := by
  have hbody : (encodePadded a bs).takeWhile (· ≠ '=') = encode a bs := by
    have hsymbols : ∀ c ∈ encode a bs, (decide (c ≠ '=')) = true := by
      intro c hc
      obtain ⟨n, rfl⟩ := exists_symbol_of_mem_encode hc
      exact decide_eq_true (symbol_ne_pad a n)
    rw [encodePadded, List.takeWhile_append_of_pos hsymbols]
    cases hpad : padding (encode a bs).length with
    | nil => simp
    | cons c r =>
      have hc : c = '=' := List.eq_of_mem_replicate (n := (4 - (encode a bs).length % 4) % 4)
        (by rw [← padding, hpad]; simp)
      simp [hc]
  simp only [decodePadded, hbody, decode_encode]
  exact if_pos rfl

theorem toNat_ofNat_byte {n : Nat} (h : n < 256) : (UInt8.ofNat n).toNat = n :=
  UInt8.toNat_ofNat_of_lt' h

/-- Two symbols with no bits left over are the written form of one byte. -/
theorem encode_one (a : Alphabet) {m n : Nat} (hm : m < 64) (hn : n < 64) (hrest : n % 16 = 0) :
    encode a [UInt8.ofNat (m * 4 + n / 16)] = [a.symbol m, a.symbol n] := by
  have hbyte := toNat_ofNat_byte (n := m * 4 + n / 16) (by omega)
  have hfirst : (m * 4 + n / 16) / 4 = m := by omega
  have hsecond : (m * 4 + n / 16) % 4 * 16 = n := by omega
  simp only [encode, hbyte, hfirst, hsecond]

theorem encode_two (a : Alphabet) {m n p : Nat} (hm : m < 64) (hn : n < 64) (hp : p < 64)
    (hrest : p % 4 = 0) :
    encode a [UInt8.ofNat (m * 4 + n / 16), UInt8.ofNat (n % 16 * 16 + p / 4)] =
      [a.symbol m, a.symbol n, a.symbol p] := by
  have hbyte := toNat_ofNat_byte (n := m * 4 + n / 16) (by omega)
  have hbyte' := toNat_ofNat_byte (n := n % 16 * 16 + p / 4) (by omega)
  have hfirst : (m * 4 + n / 16) / 4 = m := by omega
  have hsecond : (m * 4 + n / 16) % 4 * 16 + (n % 16 * 16 + p / 4) / 16 = n := by omega
  have hthird : (n % 16 * 16 + p / 4) % 16 * 4 = p := by omega
  simp only [encode, hbyte, hbyte', hfirst, hsecond, hthird]

theorem encode_three (a : Alphabet) {m n p q : Nat} (hm : m < 64) (hn : n < 64) (hp : p < 64)
    (hq : q < 64) (bs : List UInt8) :
    encode a (UInt8.ofNat (m * 4 + n / 16) :: UInt8.ofNat (n % 16 * 16 + p / 4) ::
        UInt8.ofNat (p % 4 * 64 + q) :: bs) =
      a.symbol m :: a.symbol n :: a.symbol p :: a.symbol q :: encode a bs := by
  have hbyte := toNat_ofNat_byte (n := m * 4 + n / 16) (by omega)
  have hbyte' := toNat_ofNat_byte (n := n % 16 * 16 + p / 4) (by omega)
  have hbyte'' := toNat_ofNat_byte (n := p % 4 * 64 + q) (by omega)
  have hfirst : (m * 4 + n / 16) / 4 = m := by omega
  have hsecond : (m * 4 + n / 16) % 4 * 16 + (n % 16 * 16 + p / 4) / 16 = n := by omega
  have hthird : (n % 16 * 16 + p / 4) % 16 * 4 + (p % 4 * 64 + q) / 64 = p := by omega
  have hfourth : (p % 4 * 64 + q) % 64 = q := by omega
  simp only [encode, hbyte, hbyte', hbyte'', hfirst, hsecond, hthird, hfourth]

/-- What is read as some bytes is the one written form that these bytes have. -/
theorem decode_eq_some_iff {a : Alphabet} {cs : List Char} {bs : List UInt8} :
    decode a cs = some bs ↔ cs = encode a bs := by
  refine ⟨?_, fun h => h ▸ decode_encode a bs⟩
  intro h
  induction cs using decode.induct a generalizing bs with
  | case1 =>
    rw [← Option.some.inj h]
    rfl
  | case2 c => simp [decode] at h
  | case3 c d m n hd hc hrest =>
    simp only [decode, hc, hd, if_pos hrest, Option.some.injEq] at h
    obtain ⟨hm, rfl⟩ := Alphabet.value?_facts hc
    obtain ⟨hn, rfl⟩ := Alphabet.value?_facts hd
    rw [← h, encode_one a hm hn hrest]
  | case4 c d m n hd hc hrest => simp [decode, hc, hd, hrest] at h
  | case5 c d hnone => simp [decode] at h
  | case6 c d e m n p he hd hc hrest =>
    simp only [decode, hc, hd, he, if_pos hrest, Option.some.injEq] at h
    obtain ⟨hm, rfl⟩ := Alphabet.value?_facts hc
    obtain ⟨hn, rfl⟩ := Alphabet.value?_facts hd
    obtain ⟨hp, rfl⟩ := Alphabet.value?_facts he
    rw [← h, encode_two a hm hn hp hrest]
  | case7 c d e m n p he hd hc hrest => simp [decode, hc, hd, he, hrest] at h
  | case8 c d e hnone => simp [decode] at h
  | case9 c d e f r m n p q hf he hd hc ih =>
    simp only [decode, hc, hd, he, hf, Option.map_eq_some_iff] at h
    obtain ⟨rest, hrest, hbytes⟩ := h
    obtain ⟨hm, rfl⟩ := Alphabet.value?_facts hc
    obtain ⟨hn, rfl⟩ := Alphabet.value?_facts hd
    obtain ⟨hp, rfl⟩ := Alphabet.value?_facts he
    obtain ⟨hq, rfl⟩ := Alphabet.value?_facts hf
    rw [← hbytes, encode_three a hm hn hp hq, ← ih hrest]
  | case10 c d e f r hnone => simp [decode] at h

end TokenAuth.Text.Base64
