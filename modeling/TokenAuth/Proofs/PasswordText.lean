import TokenAuth.Password
import TokenAuth.Proofs.Base64Text

/-!
The text of a hashed password gives back the parameters, the salt and the output, and hashing a password
again with these never fails. The same password gives the same output, so it always verifies.
-/
namespace TokenAuth

namespace Crypto

theorem Blake2b.length_compress (state : List UInt64) (block : List UInt8) (total : Nat)
    (isLast : Bool) : (compress state block total isLast).length = 8 := by
  simp [compress]

theorem Blake2b.length_absorb (state : List UInt64) (before : Nat) (blocks : List (List UInt8)) :
    (absorb state before blocks).length = 8 := by
  induction blocks generalizing state before with
  | nil => exact length_compress _ _ _ _
  | cons b bs ih =>
    cases bs with
    | nil => exact length_compress _ _ _ _
    | cons c cs => exact ih _ _

theorem Blake2b.length_digest {size : Nat} (h : size ≤ 64) (bs : List UInt8) :
    (digest size bs).length = size := by
  have hbytes : ∀ words : List UInt64, (words.flatMap bytes64).length = 8 * words.length := by
    intro words
    induction words with
    | nil => rfl
    | cons w words ih =>
      rw [List.flatMap_cons, List.length_append, ih, length_bytes64, List.length_cons]
      omega
  unfold digest
  rw [List.length_take, hbytes, length_absorb]
  omega

theorem Argon2.length_hash {size : Nat} (h : size ≤ 64) (p : Parameters)
    (password salt : List UInt8) : (hash p size password salt).length = size := by
  have hlong : ∀ bs, (longHash size bs).length = size := by
    intro bs
    simp only [longHash, if_pos h, chain]
    exact Blake2b.length_digest h _
  exact hlong _

end Crypto

namespace Text

theorem Base64.dollar_not_mem_encode (bs : List UInt8) : '$' ∉ encode .standard bs := by
  intro h
  obtain ⟨n, hn⟩ := exists_symbol_of_mem_encode h
  have hne : Alphabet.standard.symbol n ≠ '$' :=
    symbol_induction .standard (P := fun c => c ≠ '$') (by decide) n
  exact hne hn.symm

end Text

namespace PasswordHash

open Text Crypto

theorem number?_decimal {n : Nat} (h : n < 4294967296) : number? (decimal n) = some n := by
  have hsign : ∀ r, decimal n ≠ '+' :: r := by
    intro r hr
    apply not_mem_decimal (c := '+') (by decide) n
    rw [hr]
    exact List.mem_cons_self
  have hdigits : (decimal n).all isDigit = true := by
    rw [List.all_eq_true]
    intro c hc
    exact isDigit_of_mem_decimal hc
  unfold number?
  dsimp only
  split
  · next r hr => exact absurd hr (hsign r)
  · rw [numberOf_decimal]
    exact if_pos ⟨decimal_ne_nil n, hdigits, h⟩

/-- The part of the text with the costs. -/
def renderCosts (p : Argon2.Parameters) : List Char :=
  'm' :: '=' :: (decimal p.memory ++ ',' :: 't' :: '=' :: (decimal p.passes ++
    ',' :: 'p' :: '=' :: decimal p.lanes))

theorem costs?_render {p : Argon2.Parameters} (hm : p.memory < 4294967296)
    (ht : p.passes < 4294967296) (hp : p.lanes < 4294967296) :
    costs? (renderCosts p) = some (p.memory, p.passes, p.lanes) := by
  have hcost : ∀ letter n, ',' ≠ letter → ',' ∉ letter :: '=' :: decimal n := by
    intro letter n hletter h
    rcases List.mem_cons.1 h with h | h
    · exact hletter h
    · rcases List.mem_cons.1 h with h | h
      · exact absurd h (by decide)
      · exact not_mem_decimal (by decide) n h
  have hparts : parts ',' (renderCosts p) = ['m' :: '=' :: decimal p.memory,
      't' :: '=' :: decimal p.passes, 'p' :: '=' :: decimal p.lanes] := by
    have hmemory := parts_append ',' ('m' :: '=' :: decimal p.memory)
      ('t' :: '=' :: (decimal p.passes ++ ',' :: 'p' :: '=' :: decimal p.lanes))
      (hcost 'm' p.memory (by decide))
    have hpasses := parts_append ',' ('t' :: '=' :: decimal p.passes)
      ('p' :: '=' :: decimal p.lanes) (hcost 't' p.passes (by decide))
    have hlanes := parts_of_not_mem (hcost 'p' p.lanes (by decide))
    rw [hlanes] at hpasses
    simp only [List.cons_append] at hmemory hpasses
    rw [renderCosts, hmemory, hpasses]
  unfold costs?
  simp [hparts, cost?, number?_decimal hm, number?_decimal ht, number?_decimal hp]

theorem variant?_name (v : Argon2.Variant) : variant? (variantName v) = some v := by
  cases v <;> decide

theorem version?_number (v : Argon2.Version) :
    version? ('v' :: '=' :: decimal v.number) = some v := by
  have hdecimal : ∀ n : Nat, decimal n = if n < 10 then [digit n] else
      decimal (n / 10) ++ [digit (n % 10)] := fun n => by rw [decimal]
  cases v with
  | overwriting =>
    have htext : decimal 16 = ['1', '6'] := by
      rw [hdecimal, hdecimal]
      decide
    simp [Argon2.Version.number, htext, version?]
  | combining =>
    have htext : decimal 19 = ['1', '9'] := by
      rw [hdecimal, hdecimal]
      decide
    simp [Argon2.Version.number, htext, version?]

theorem read?_render {h : PasswordHash} (hm : h.parameters.memory < 4294967296)
    (ht : h.parameters.passes < 4294967296) (hp : h.parameters.lanes < 4294967296) :
    read? h.render = some h := by
  have htext : h.render = '$' :: (variantName h.parameters.variant ++
      '$' :: ('v' :: '=' :: decimal h.parameters.version.number ++
      '$' :: (renderCosts h.parameters ++ '$' :: (Base64.encode .standard h.salt ++
      '$' :: Base64.encode .standard h.output)))) := by
    simp [render, renderCosts]
  have hvariant : '$' ∉ variantName h.parameters.variant := by
    cases h.parameters.variant <;> decide
  have hversion : '$' ∉ 'v' :: '=' :: decimal h.parameters.version.number := by
    simp [not_mem_decimal (c := '$') (by decide)]
  have hcosts : '$' ∉ renderCosts h.parameters := by
    simp [renderCosts, not_mem_decimal (c := '$') (by decide)]
  have hparts : parts '$' h.render = [[], variantName h.parameters.variant,
      'v' :: '=' :: decimal h.parameters.version.number, renderCosts h.parameters,
      Base64.encode .standard h.salt, Base64.encode .standard h.output] := by
    have hempty := parts_append '$' [] (variantName h.parameters.variant ++
      '$' :: ('v' :: '=' :: decimal h.parameters.version.number ++
      '$' :: (renderCosts h.parameters ++ '$' :: (Base64.encode .standard h.salt ++
      '$' :: Base64.encode .standard h.output)))) (by simp)
    rw [htext, List.nil_append] at *
    rw [hempty, parts_append '$' _ _ hvariant, parts_append '$' _ _ hversion,
      parts_append '$' _ _ hcosts, parts_append '$' _ _ (Base64.dollar_not_mem_encode _),
      parts_of_not_mem (Base64.dollar_not_mem_encode _)]
  simp [read?, hparts, ofParts?, variant?_name, version?_number, costs?_render hm ht hp,
    Base64.decode_encode]

theorem read?_render_standard (salt output : List UInt8) :
    read? (render ⟨standard, salt, output⟩) = some ⟨standard, salt, output⟩ := by
  have hcosts : standard.memory < 4294967296 ∧ standard.passes < 4294967296 ∧
      standard.lanes < 4294967296 := by decide
  exact read?_render hcosts.1 hcosts.2.1 hcosts.2.2

theorem render_standard (salt output : List UInt8) :
    render ⟨standard, salt, output⟩ = "$argon2id$v=19$m=4096,t=3,p=4$".toList ++
      Base64.encode .standard salt ++ '$' :: Base64.encode .standard output := by
  have hcosts : decimal 19 = "19".toList ∧ decimal 4096 = "4096".toList ∧
      decimal 3 = "3".toList ∧ decimal 4 = "4".toList := by
    simp [decimal, digit]
  obtain ⟨hversion, hmemory, hpasses, hlanes⟩ := hcosts
  unfold render
  dsimp only [standard, Argon2.Version.number, variantName]
  rw [hversion, hmemory, hpasses, hlanes]
  -- What salt and output are written as does not matter here, and must not be computed.
  generalize Base64.encode .standard salt = saltText
  generalize Base64.encode .standard output = outputText
  simp

/-- A hash made for storage can always be computed again, for whatever password. -/
theorem matches?_make {salt : List UInt8} (hsalt : 8 ≤ salt.length) (password presented : List UInt8) :
    (make password salt).matches? presented =
      .ok ((make presented salt).output == (make password salt).output) := by
  have hlength : (Argon2.hash standard outputSize password salt).length = outputSize :=
    Argon2.length_hash (by decide) _ _ _
  have hobstacle : (make password salt).obstacle? = none := by
    have hlong : ¬ salt.length < 8 := by omega
    unfold obstacle?
    simp only [make, hlength, if_neg hlong]
    decide
  unfold matches?
  rw [hobstacle]
  simp only [make, hlength]

end PasswordHash

namespace Password

open Text Crypto

/-- What comes of a password and a stored one is a verdict. -/
theorem verify_hash_eq {salt : List UInt8} (hsalt : 8 ≤ salt.length) (p stored : Password) :
    p.verify (stored.hash salt) = .ok ((PasswordHash.make (Text.utf8 p.text) salt).output ==
      (PasswordHash.make (Text.utf8 stored.text) salt).output) := by
  have hread : PasswordHash.read? (stored.hash salt).text.toList =
      some (PasswordHash.make (Text.utf8 stored.text) salt) := by
    rw [hash, String.toList_ofList]
    exact PasswordHash.read?_render_standard _ _
  unfold verify
  rw [hread]
  exact PasswordHash.matches?_make hsalt _ _

theorem verify_hash (p : Password) {salt : List UInt8} (hsalt : 8 ≤ salt.length) :
    p.verify (p.hash salt) = .ok true := by
  rw [verify_hash_eq hsalt, beq_self_eq_true]

/-- The stored form of a password names its parameters, salt and output, and is accepted as a stored
text. Reading it gives these back, whatever bytes they are; verifying a password against it never fails,
and succeeds if and only if hashing that password in the same way gives the same 32 bytes. -/
theorem verify_hash_iff {salt : List UInt8} (hsalt : salt.length = 32) (p q : Password) :
    StoredHash.ofText (p.hash salt).text = .ok (p.hash salt) ∧
    (p.hash salt).text.toList = "$argon2id$v=19$m=4096,t=3,p=4$".toList ++
      Base64.encode .standard salt ++ '$' ::
        Base64.encode .standard (Argon2.hash PasswordHash.standard 32 (utf8 p.text) salt) ∧
    (∀ output, PasswordHash.read? (PasswordHash.render ⟨PasswordHash.standard, salt, output⟩) =
      some ⟨PasswordHash.standard, salt, output⟩) ∧
    (Argon2.hash PasswordHash.standard 32 (utf8 q.text) salt).length = 32 ∧
    (∃ verdict, q.verify (p.hash salt) = .ok verdict ∧
      (verdict = true ↔ Argon2.hash PasswordHash.standard 32 (utf8 q.text) salt =
        Argon2.hash PasswordHash.standard 32 (utf8 p.text) salt)) ∧
    p.verify (p.hash salt) = .ok true := by
  have hlong : 8 ≤ salt.length := by omega
  have htext : (p.hash salt).text.toList = (PasswordHash.make (utf8 p.text) salt).render :=
    String.toList_ofList
  refine ⟨?_, ?_, PasswordHash.read?_render_standard salt, Argon2.length_hash (by decide) _ _ _, ?_,
    verify_hash p hlong⟩
  · exact dif_neg (p.hash salt).text_ne
  · rw [htext]
    exact PasswordHash.render_standard _ _
  · exact ⟨_, verify_hash_eq hlong q p, beq_iff_eq⟩

def sample : Password := ⟨"pässwörd:", by decide⟩

def sampleGuess : Password := ⟨"pässwort:", by decide⟩

/-- Bytes in which every bit is set somewhere. -/
def sampleSalt : List UInt8 := (List.range 32).map fun n => UInt8.ofNat (8 * n + 7)

theorem verify_hash_iff_sample : sampleSalt.length = 32 ∧
    StoredHash.ofText (sample.hash sampleSalt).text = .ok (sample.hash sampleSalt) ∧
    (∃ verdict, sampleGuess.verify (sample.hash sampleSalt) = .ok verdict ∧
      (verdict = true ↔
        Argon2.hash PasswordHash.standard 32 (utf8 sampleGuess.text) sampleSalt =
          Argon2.hash PasswordHash.standard 32 (utf8 sample.text) sampleSalt)) ∧
    sample.verify (sample.hash sampleSalt) = .ok true := by
  have hsalt : sampleSalt.length = 32 := by decide
  obtain ⟨haccepted, -, -, -, hverdict, hself⟩ := verify_hash_iff hsalt sample sampleGuess
  exact ⟨hsalt, haccepted, hverdict, hself⟩

end Password

end TokenAuth
