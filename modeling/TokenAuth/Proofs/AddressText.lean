import TokenAuth.Email

/-!
Addresses as text. A reader of addresses stops at a character that no address goes on with, so what it
makes of a text does not depend on what follows that character, and no address holds it. An address that
is written is read back as the same address, whether or not groups are left out or the last part is in
decimal.
-/
namespace TokenAuth

namespace Text

theorem takeWhile_append_stop {p : Char → Bool} {c : Char} (hc : p c = false) (a b : List Char) :
    (a ++ c :: b).takeWhile p = a.takeWhile p := by
  rw [List.takeWhile_append]
  split
  · next h =>
    rw [List.takeWhile_cons_of_neg (by simp [hc]), List.append_nil]
    exact ((List.takeWhile_prefix p).eq_of_length h).symm
  · rfl

theorem drop_takeWhile_append (p : Char → Bool) (a b : List Char) :
    (a ++ b).drop (a.takeWhile p).length = a.drop (a.takeWhile p).length ++ b :=
  List.drop_append_of_le_length (List.takeWhile_prefix p).length_le

end Text

namespace IpAddress

open Text

variable {α : Type} {c d : Char} {cs r : List Char} {x : Ipv4} {n room : Nat} {gs : List UInt16}

/-- What the reader makes of a text is the same if this character and anything else follows. -/
def StopsAt (read : List Char → Option (α × List Char)) (c : Char) : Prop :=
  ∀ cs r, read (cs ++ c :: r) = (read cs).map fun p => (p.1, p.2 ++ c :: r)

theorem readByte_stopsAt (hc : isDigit c = false) : StopsAt readByte c := by
  intro cs r
  unfold readByte
  dsimp only
  rw [takeWhile_append_stop hc, drop_takeWhile_append]
  split <;> rfl

theorem readGroup_stopsAt (hc : isHexDigit c = false) : StopsAt readGroup c := by
  intro cs r
  unfold readGroup
  dsimp only
  rw [takeWhile_append_stop hc, drop_takeWhile_append]
  split
  · rfl
  · rw [Option.map_map]
    rfl

theorem readChar_append (hc : c ≠ d) (cs r : List Char) :
    readChar d (cs ++ c :: r) = (readChar d cs).map (· ++ c :: r) := by
  cases cs with
  | nil => exact if_neg hc
  | cons e cs =>
    simp only [List.cons_append, readChar]
    split <;> rfl

theorem readIpv4_stopsAt (hc : isDigit c = false) (hdot : c ≠ '.') : StopsAt readIpv4 c := by
  intro cs r
  unfold readIpv4
  simp only [readByte_stopsAt hc _ r, readChar_append hdot, bind, Option.bind_map, Option.map_bind,
    Function.comp_def, pure, Option.map_some]

/-- No IPv6 address goes on with the character. -/
structure EndsIpv6 (c : Char) : Prop where
  noDigit : isHexDigit c = false
  noColon : c ≠ ':'
  noDot : c ≠ '.'

theorem isDigit_of_isHexDigit (h : isHexDigit c = false) : isDigit c = false := by
  cases hdigit : isDigit c with
  | false => rfl
  | true =>
    have hbounds : '0' ≤ c ∧ c ≤ '9' := by simpa [isDigit] using hdigit
    rw [isHexDigit, hexValue?, if_pos hbounds] at h
    simp at h

theorem readGroups_append (hc : EndsIpv6 c) (r : List Char) (room : Nat) (isFirst : Bool)
    (cs : List Char) : readGroups room isFirst (cs ++ c :: r) =
      { readGroups room isFirst cs with rest := (readGroups room isFirst cs).rest ++ c :: r } := by
  induction room generalizing isFirst cs with
  | zero => rfl
  | succ room ih =>
    -- Neither the colon before a group nor an IPv4 address in its place goes on with the character.
    have hinner : (if isFirst then some (cs ++ c :: r) else readChar ':' (cs ++ c :: r)) =
        (if isFirst then some cs else readChar ':' cs).map (· ++ c :: r) := by
      split
      · rfl
      · exact readChar_append hc.noColon cs r
    have hv4 : ∀ inner, (if 0 < room then readIpv4 (inner ++ c :: r) else none) =
        (if 0 < room then readIpv4 inner else none).map fun p => (p.1, p.2 ++ c :: r) := by
      intro inner
      split
      · exact readIpv4_stopsAt (isDigit_of_isHexDigit hc.noDigit) hc.noDot inner r
      · rfl
    unfold readGroups
    rw [hinner]
    cases (if isFirst then some cs else readChar ':' cs) with
    | none => rfl
    | some inner =>
      simp only [Option.map_some, hv4]
      cases (if 0 < room then readIpv4 inner else none) with
      | some p => rfl
      | none =>
        simp only [Option.map_none, readGroup_stopsAt hc.noDigit inner r]
        cases readGroup inner with
        | none => rfl
        | some p => simp only [Option.map_some, ih]

/-- What follows the double colon that stands for groups of zeros. -/
def afterGap? : List Char → Option (List Char)
  | ':' :: ':' :: rest => some rest
  | _ => none

theorem afterGap?_append (hc : c ≠ ':') (cs r : List Char) :
    afterGap? (cs ++ c :: r) = (afterGap? cs).map (· ++ c :: r) := by
  rcases cs with _ | ⟨a, _ | ⟨b, cs⟩⟩
  · simp [afterGap?, hc]
  · simp [afterGap?, hc]
  · simp only [List.cons_append, afterGap?]
    split <;> simp_all

/-- The address whose groups are those of two parts and zeros between them. -/
def joined? (head : List UInt16) (tail : GroupsRead) : Option (Ipv6 × List Char) :=
  (Ipv6.ofGroups? (head ++ List.replicate (8 - head.length - tail.groups.length) 0 ++
    tail.groups)).map (·, tail.rest)

theorem readIpv6_eq (cs : List Char) : readIpv6 cs =
    let head := readGroups 8 true cs
    if head.groups.length = 8 then (Ipv6.ofGroups? head.groups).map (·, head.rest)
    else if head.endsInIpv4 then none
    else (afterGap? head.rest).bind fun rest =>
      joined? head.groups (readGroups (7 - head.groups.length) true rest) := by
  unfold readIpv6
  dsimp only
  generalize readGroups 8 true cs = head
  split
  · rfl
  · split
    · rfl
    · split
      · next rest heq =>
        rw [heq]
        rfl
      · next hother =>
        have hnone : afterGap? head.rest = none := by
          unfold afterGap?
          split
          · next heq => exact absurd heq (hother _)
          · rfl
        rw [hnone]
        rfl

theorem readIpv6_stopsAt (hc : EndsIpv6 c) : StopsAt readIpv6 c := by
  intro cs r
  rw [readIpv6_eq, readIpv6_eq]
  simp only [readGroups_append hc r, afterGap?_append hc.noColon, joined?]
  generalize readGroups 8 true cs = head
  split
  · rw [Option.map_map]
    rfl
  · split
    · rfl
    · rw [Option.bind_map, Option.map_bind]
      congr 1
      funext rest
      simp only [Function.comp_def, readGroups_append hc r, Option.map_map]

theorem readByte_decimal (hn : n ≤ 255) (hr : ∀ c ∈ r.head?, isDigit c = false) :
    readByte (decimal n ++ r) = some (n.toUInt8, r) := by
  have hdigits : (decimal n ++ r).takeWhile isDigit = decimal n :=
    takeWhile_append_of_head (fun _ => isDigit_of_mem_decimal) hr
  have hlength := length_decimal_le 3 n (by decide) (Nat.lt_of_le_of_lt hn (by decide))
  have hzero : ¬ (1 < (decimal n).length ∧ (decimal n).head? = some '0') := by
    rintro ⟨hlong, hhead⟩
    rcases Nat.eq_zero_or_pos n with rfl | hpos
    · rw [decimal] at hlong
      simp at hlong
    · exact head?_decimal_ne_zero n hpos hhead
  unfold readByte
  dsimp only
  rw [hdigits, numberOf_decimal, List.drop_left, if_neg]
  rintro (hnil | hlong | hlead | hlarge)
  · exact decimal_ne_nil n hnil
  · omega
  · exact hzero hlead
  · omega

theorem readIpv4_render (x : Ipv4) : readIpv4 (renderIpv4 x) = some (x, []) := by
  have hbyte : ∀ (b : UInt8) (r : List Char), (∀ c ∈ r.head?, isDigit c = false) →
      readByte (decimal b.toNat ++ r) = some (b, r) := by
    intro b r hr
    rw [readByte_decimal (Nat.le_of_lt_succ b.toNat_lt) hr]
    simp
  have hdot : ∀ (b : UInt8) (r : List Char),
      readByte (decimal b.toNat ++ '.' :: r) = some (b, '.' :: r) :=
    fun b r => hbyte b _ (by simp; decide)
  have hlast : readByte (decimal x.d.toNat) = some (x.d, []) := by
    simpa using hbyte x.d [] (by simp)
  have hchar : ∀ r, readChar '.' ('.' :: r) = some r := by simp [readChar]
  simp [readIpv4, renderIpv4, hdot, hlast, hchar]

theorem readChar_of_not_mem (h : d ∉ cs) : readChar d cs = none := by
  cases cs with
  | nil => rfl
  | cons c cs =>
    have hne : c ≠ d := by
      rintro rfl
      exact h List.mem_cons_self
    exact if_neg hne

theorem readIpv4_of_no_dot (h : '.' ∉ cs) : readIpv4 cs = none := by
  have hrest : ∀ k, readChar '.' (cs.drop k) = none :=
    fun k => readChar_of_not_mem fun hmem => h (List.mem_of_mem_drop hmem)
  unfold readIpv4 readByte
  dsimp only
  split
  · rfl
  · simp [hrest]

theorem readGroup_hex (g : UInt16) (hr : ∀ c ∈ r.head?, isHexDigit c = false) :
    readGroup (hex g.toNat ++ r) = some (g, r) := by
  have hdigits : (hex g.toNat ++ r).takeWhile isHexDigit = hex g.toNat :=
    takeWhile_append_of_head (fun _ => isHexDigit_of_mem_hex) hr
  have hlength := length_hex_le 3 g.toNat g.toNat_lt
  have hfits : ¬ (hex g.toNat = [] ∨ 4 < (hex g.toNat).length) := by
    rintro (hnil | hlong)
    · exact hex_ne_nil _ hnil
    · omega
  unfold readGroup
  dsimp only
  rw [hdigits, if_neg hfits, hexNumber?_hex, List.drop_left]
  simp

theorem readIpv4_of_head (hc : isDigit c = false) (r : List Char) : readIpv4 (c :: r) = none := by
  unfold readIpv4 readByte
  simp [hc]

theorem readGroup_of_head (hc : isHexDigit c = false) (r : List Char) : readGroup (c :: r) = none := by
  unfold readGroup
  simp [hc]

theorem readGroups_of_group (isFirst : Bool) {inner rest : List Char} {g : UInt16}
    (hinner : (if isFirst then some cs else readChar ':' cs) = some inner)
    (hv4 : readIpv4 inner = none) (hgroup : readGroup inner = some (g, rest)) :
    readGroups (room + 1) isFirst cs =
      { readGroups room false rest with groups := g :: (readGroups room false rest).groups } := by
  rw [readGroups, hinner]
  simp only [hv4, ite_self, hgroup]

theorem readGroups_of_none (isFirst : Bool) {inner : List Char}
    (hinner : (if isFirst then some cs else readChar ':' cs) = some inner)
    (hv4 : readIpv4 inner = none) (hgroup : readGroup inner = none) :
    readGroups (room + 1) isFirst cs = ⟨[], false, cs⟩ := by
  rw [readGroups, hinner]
  simp only [hv4, ite_self, hgroup]

theorem readIpv6_of_head (hc : isHexDigit c = false) (hcolon : c ≠ ':') (r : List Char) :
    readIpv6 (c :: r) = none := by
  have hhead : readGroups 8 true (c :: r) = ⟨[], false, c :: r⟩ :=
    readGroups_of_none true rfl (readIpv4_of_head (isDigit_of_isHexDigit hc) r)
      (readGroup_of_head hc r)
  have hgap : afterGap? (c :: r) = none := by
    unfold afterGap?
    split
    · next heq => exact absurd (List.cons.inj heq).1 hcolon
    · rfl
  rw [readIpv6_eq, hhead]
  simp only [hgap]
  rfl

/-- Groups with a colon before each. -/
def renderAfter (gs : List UInt16) : List Char := gs.flatMap fun g => ':' :: hex g.toNat

theorem renderGroups_cons (g : UInt16) (gs : List UInt16) :
    renderGroups (g :: gs) = hex g.toNat ++ renderAfter gs := by
  induction gs generalizing g with
  | nil => simp [renderGroups, renderAfter]
  | cons g' gs ih =>
    rw [renderGroups, ih]
    · rfl
    · simp

theorem dot_not_mem_renderAfter (gs : List UInt16) : '.' ∉ renderAfter gs := by
  intro h
  obtain ⟨g, -, hg⟩ := List.mem_flatMap.1 h
  rcases List.mem_cons.1 hg with hg | hg
  · exact absurd hg (by decide)
  · exact absurd (isHexDigit_of_mem_hex hg) (by decide)

theorem dot_not_mem_renderGroups (gs : List UInt16) : '.' ∉ renderGroups gs := by
  cases gs with
  | nil => simp [renderGroups]
  | cons g gs =>
    rw [renderGroups_cons, List.mem_append]
    rintro (h | h)
    · exact absurd (isHexDigit_of_mem_hex h) (by decide)
    · exact dot_not_mem_renderAfter gs h

/-- Nothing follows, or a double colon. -/
def EndsGroups (r : List Char) : Prop := r = [] ∨ ∃ t, r = ':' :: ':' :: t

theorem EndsGroups.readGroups_eq (hr : EndsGroups r) (room : Nat) (isFirst : Bool) :
    readGroups room isFirst r = ⟨[], false, r⟩ := by
  have hcolon : ∀ t, readIpv4 (':' :: t) = none ∧ readGroup (':' :: t) = none :=
    fun t => ⟨readIpv4_of_head (by decide) t, readGroup_of_head (by decide) t⟩
  cases room with
  | zero => rfl
  | succ room =>
    rcases hr with rfl | ⟨t, rfl⟩
    · cases isFirst with
      | false => rfl
      | true => exact readGroups_of_none _ rfl rfl rfl
    · cases isFirst with
      | false => exact readGroups_of_none _ rfl (hcolon t).1 (hcolon t).2
      | true => exact readGroups_of_none _ rfl (hcolon (':' :: t)).1 (hcolon (':' :: t)).2

theorem EndsGroups.head_renderAfter (hr : EndsGroups r) (gs : List UInt16) :
    ∀ c ∈ (renderAfter gs ++ r).head?, isHexDigit c = false := by
  cases gs with
  | nil =>
    rcases hr with rfl | ⟨t, rfl⟩
    · simp [renderAfter]
    · intro c hc
      rw [← Option.mem_some_iff.1 hc]
      decide
  | cons g gs =>
    intro c hc
    rw [← Option.mem_some_iff.1 hc]
    decide

/-- The first of some groups, at the start or after a colon. -/
theorem readGroups_cons {isFirst : Bool} {g : UInt16} (hr : EndsGroups r) (hdot : '.' ∉ r)
    (hinner : (if isFirst then some cs else readChar ':' cs) = some (renderGroups (g :: gs) ++ r)) :
    readGroups (room + 1) isFirst cs = { readGroups room false (renderAfter gs ++ r) with
      groups := g :: (readGroups room false (renderAfter gs ++ r)).groups } := by
  have hv4 : readIpv4 (renderGroups (g :: gs) ++ r) = none := by
    apply readIpv4_of_no_dot
    rw [List.mem_append]
    exact fun h => h.elim (dot_not_mem_renderGroups _) hdot
  have hgroup : readGroup (renderGroups (g :: gs) ++ r) = some (g, renderAfter gs ++ r) := by
    rw [renderGroups_cons, List.append_assoc]
    exact readGroup_hex g (hr.head_renderAfter gs)
  exact readGroups_of_group isFirst hinner hv4 hgroup

theorem readGroups_renderAfter (hroom : gs.length ≤ room) (hr : EndsGroups r) (hdot : '.' ∉ r) :
    readGroups room false (renderAfter gs ++ r) = ⟨gs, false, r⟩ := by
  induction gs generalizing room with
  | nil => exact hr.readGroups_eq room false
  | cons g gs ih =>
    obtain ⟨room, rfl⟩ : ∃ k, room = k + 1 := Nat.exists_eq_add_one.2 (Nat.zero_lt_of_lt hroom)
    have hinner : (if false then some (renderAfter (g :: gs) ++ r) else
        readChar ':' (renderAfter (g :: gs) ++ r)) = some (renderGroups (g :: gs) ++ r) := by
      rw [renderGroups_cons]
      simp [renderAfter, readChar]
    rw [readGroups_cons hr hdot hinner, ih (Nat.le_of_succ_le_succ hroom)]

theorem readGroups_renderGroups (hroom : gs.length ≤ room) (hr : EndsGroups r) (hdot : '.' ∉ r) :
    readGroups room true (renderGroups gs ++ r) = ⟨gs, false, r⟩ := by
  cases gs with
  | nil => exact hr.readGroups_eq room true
  | cons g gs =>
    obtain ⟨room, rfl⟩ : ∃ k, room = k + 1 := Nat.exists_eq_add_one.2 (Nat.zero_lt_of_lt hroom)
    rw [readGroups_cons hr hdot rfl, readGroups_renderAfter (Nat.le_of_succ_le_succ hroom) hr hdot]

theorem ofGroups?_groups (x : Ipv6) : Ipv6.ofGroups? x.groups = some x := dif_pos x.length_groups

theorem readIpv6_renderGroups (hgs : gs.length = 8) :
    readIpv6 (renderGroups gs) = (Ipv6.ofGroups? gs).map (·, []) := by
  have hhead : readGroups 8 true (renderGroups gs) = ⟨gs, false, []⟩ := by
    simpa using readGroups_renderGroups (r := []) (Nat.le_of_eq hgs) (Or.inl rfl) (by simp)
  rw [readIpv6_eq, hhead]
  exact if_pos hgs

/-- A gap stands for all the groups that are missing. -/
theorem readIpv6_gap {before after : List UInt16} (hlength : before.length + n + after.length = 8)
    (hn : 0 < n) : readIpv6 (renderGroups before ++ "::".toList ++ renderGroups after) =
      (Ipv6.ofGroups? (before ++ List.replicate n 0 ++ after)).map (·, []) := by
  have hdot : '.' ∉ ':' :: ':' :: renderGroups after := by
    simp [dot_not_mem_renderGroups]
  have hhead : readGroups 8 true (renderGroups before ++ ':' :: ':' :: renderGroups after) =
      ⟨before, false, ':' :: ':' :: renderGroups after⟩ :=
    readGroups_renderGroups (by omega) (Or.inr ⟨_, rfl⟩) hdot
  have htail : readGroups (7 - before.length) true (renderGroups after) = ⟨after, false, []⟩ := by
    have hfits : after.length ≤ 7 - before.length := by omega
    simpa using readGroups_renderGroups (r := []) hfits (Or.inl rfl) (by simp)
  have htext : renderGroups before ++ "::".toList ++ renderGroups after =
      renderGroups before ++ ':' :: ':' :: renderGroups after := by simp
  have hshort : before.length ≠ 8 := by omega
  have hzeros : 8 - before.length - after.length = n := by omega
  rw [htext, readIpv6_eq, hhead]
  simp only [if_neg hshort, afterGap?, Option.bind_some, htail, joined?, hzeros]
  rfl

/-- The last two groups are those of an IPv4 address. -/
theorem readIpv6_mapped (x : Ipv4) : readIpv6 ("::ffff:".toList ++ renderIpv4 x) =
    (Ipv6.ofGroups? ([0, 0, 0, 0, 0, 0xffff] ++ x.groups)).map (·, []) := by
  have hhead : ∀ t, readGroups 8 true (':' :: ':' :: t) = ⟨[], false, ':' :: ':' :: t⟩ :=
    fun t => EndsGroups.readGroups_eq (Or.inr ⟨t, rfl⟩) 8 true
  have hgroup : readGroup ('f' :: 'f' :: 'f' :: 'f' :: ':' :: renderIpv4 x) =
      some (0xffff, ':' :: renderIpv4 x) := by
    have hhex : hex (0xffff : UInt16).toNat = ['f', 'f', 'f', 'f'] := by simp [hex, hexDigit]
    have hread := readGroup_hex 0xffff (r := ':' :: renderIpv4 x) (by simp; decide)
    rwa [hhex] at hread
  have hlast : readGroups 6 false (':' :: renderIpv4 x) = ⟨x.groups, true, []⟩ := by
    simp [readGroups, readChar, readIpv4_render]
  have htail : readGroups 7 true ('f' :: 'f' :: 'f' :: 'f' :: ':' :: renderIpv4 x) =
      ⟨0xffff :: x.groups, true, []⟩ := by
    rw [readGroups_of_group true rfl (readIpv4_of_head (by decide) _) hgroup, hlast]
  have htext : "::ffff:".toList ++ renderIpv4 x =
      ':' :: ':' :: 'f' :: 'f' :: 'f' :: 'f' :: ':' :: renderIpv4 x := by simp
  rw [htext, readIpv6_eq, hhead]
  simp only [afterGap?, Option.bind_some, List.length_nil, htail, joined?]
  rfl

theorem group_of_bytes (g : UInt16) :
    (g >>> 8).toUInt8.toUInt16 <<< 8 ||| g.toUInt8.toUInt16 = g := by
  have hlow : g.toNat % 2 ^ 8 < 2 ^ 8 := Nat.mod_lt _ (by decide)
  have hshift : UInt16.toNat 8 % 16 = 8 := rfl
  have hg := g.toNat_lt
  have hhigh : g.toNat / 2 ^ 8 % 2 ^ 8 * 2 ^ 8 % 2 ^ 16 = g.toNat / 2 ^ 8 * 2 ^ 8 := by omega
  apply UInt16.toNat_inj.1
  simp only [UInt16.toNat_or, UInt16.toNat_shiftLeft, UInt8.toNat_toUInt16, UInt16.toNat_toUInt8,
    UInt16.toNat_shiftRight, hshift]
  rw [Nat.shiftRight_eq_div_pow, Nat.shiftLeft_eq, hhigh, ← Nat.shiftLeft_eq,
    ← Nat.shiftLeft_add_eq_or_of_lt hlow, Nat.shiftLeft_eq]
  omega

/-- Where the run starts and how long it is. -/
theorem exists_zeroRun (start : Nat) (gs : List UInt16) : ∃ before after,
    gs = before ++ List.replicate (longestZeroRun start gs).2 0 ++ after ∧
      (0 < (longestZeroRun start gs).2 → (longestZeroRun start gs).1 = start + before.length) := by
  induction gs generalizing start with
  | nil => exact ⟨[], [], rfl, fun h => absurd h (by simp [longestZeroRun])⟩
  | cons g gs ih =>
    unfold longestZeroRun
    dsimp only
    split
    · refine ⟨[], (g :: gs).dropWhile (· = 0), ?_, fun _ => rfl⟩
      have hzeros : (g :: gs).takeWhile (· = 0) = List.replicate (zeroRun (g :: gs)) 0 := by
        apply List.eq_replicate_of_mem
        intro z hz
        simpa using List.all_eq_true.1 List.all_takeWhile z hz
      rw [← hzeros, List.nil_append, List.takeWhile_append_dropWhile]
    · obtain ⟨before, after, heq, hstart⟩ := ih (start + 1)
      refine ⟨g :: before, after, ?_, ?_⟩
      · rw [List.cons_append, List.cons_append, ← heq]
      · intro hrun
        rw [hstart hrun, List.length_cons]
        omega

theorem readIpv6_render (x : Ipv6) : readIpv6 (renderIpv6 x) = some (x, []) := by
  unfold renderIpv6
  split
  · next g h heq =>
    have hgroups : [0, 0, 0, 0, 0, 0xffff] ++ [g, h] = x.groups := heq.symm
    rw [readIpv6_mapped, Ipv4.groups, group_of_bytes, group_of_bytes, hgroups, ofGroups?_groups]
    rfl
  · dsimp only
    -- Where a run of no length would start is not known, but then no group is left out.
    obtain ⟨before, after, heq, hstart⟩ := exists_zeroRun 0 x.groups
    generalize longestZeroRun 0 x.groups = run at *
    split
    · next hrun =>
      have hlength := congrArg List.length heq
      simp only [x.length_groups, List.length_append, List.length_replicate] at hlength
      have hbefore : run.1 = before.length := by
        have := hstart (by omega)
        omega
      have htake : x.groups.take run.1 = before := by
        rw [heq, List.append_assoc, hbefore, List.take_left]
      have hdrop : x.groups.drop (run.1 + run.2) = after := by
        rw [heq, List.drop_left' (by simp [hbefore])]
      rw [htake, hdrop, readIpv6_gap hlength.symm (by omega), ← heq, ofGroups?_groups]
      rfl
    · rw [readIpv6_renderGroups x.length_groups, ofGroups?_groups]
      rfl

theorem readIpv4_renderIpv6 (x : Ipv6) : readIpv4 (renderIpv6 x) = none := by
  unfold renderIpv6
  split
  · exact readIpv4_of_head (c := ':') (by decide) _
  · dsimp only
    apply readIpv4_of_no_dot
    split
    · simp [dot_not_mem_renderGroups]
    · exact dot_not_mem_renderGroups _

/-- An address that is written is read back as the same address. -/
theorem read?_render (a : IpAddress) : read? a.render = some a := by
  cases a with
  | v4 x => simp only [read?, render, readIpv4_render]
  | v6 x => simp only [read?, render, readIpv4_renderIpv6, readIpv6_render]

/-- Every address starts with a hexadecimal digit or a colon. -/
theorem head?_of_read? {a : IpAddress} (h : read? cs = some a) :
    ∀ c ∈ cs.head?, isHexDigit c = true ∨ c = ':' := by
  intro c hhead
  cases cs with
  | nil => simp at hhead
  | cons d r =>
    obtain rfl : d = c := by simpa using hhead
    cases hdigit : isHexDigit d with
    | true => exact Or.inl rfl
    | false =>
      refine Or.inr (Decidable.byContradiction fun hcolon => ?_)
      unfold read? at h
      rw [readIpv4_of_head (isDigit_of_isHexDigit hdigit), readIpv6_of_head hdigit hcolon] at h
      simp at h

theorem read?_eq_v4_iff : read? cs = some (.v4 x) ↔ readIpv4 cs = some (x, []) := by
  unfold read?
  split
  · next y heq => simp [heq]
  · next hother =>
    have hne : readIpv4 cs ≠ some (x, []) := fun h => hother x h
    simp only [hne, iff_false]
    split <;> simp

theorem read?_eq_v6 {y : Ipv6} (h : read? cs = some (.v6 y)) :
    readIpv6 cs = some (y, []) ∧ ∀ x, readIpv4 cs ≠ some (x, []) := by
  unfold read? at h
  split at h
  · simp at h
  · next hother =>
    split at h
    · next z heq =>
      rw [Option.some.injEq, v6.injEq] at h
      exact ⟨h ▸ heq, fun x hx => hother x hx⟩
    · simp at h

/-- The reader would stop at such a character and leave it. -/
theorem not_mem_of_read? {a : IpAddress} (hc : EndsIpv6 c) (h : read? cs = some a) : c ∉ cs := by
  intro hmem
  obtain ⟨before, after, rfl⟩ := List.append_of_mem hmem
  cases a with
  | v4 x =>
    have hread := read?_eq_v4_iff.1 h
    rw [readIpv4_stopsAt (isDigit_of_isHexDigit hc.noDigit) hc.noDot] at hread
    simp at hread
  | v6 y =>
    have hread := (read?_eq_v6 h).1
    rw [readIpv6_stopsAt hc] at hread
    simp at hread

end IpAddress

namespace Email

open Text

/-- What stands before the address may hold brackets of its own, and other addresses. -/
theorem endsInAddress_iff {domain : List Char} : endsInAddress domain = true ↔
    ∃ before inner a, domain = before ++ '[' :: inner ++ [']'] ∧ IpAddress.read? inner = some a := by
  have hopens : IpAddress.EndsIpv6 '[' := ⟨by decide, by decide, by decide⟩
  unfold endsInAddress
  constructor
  · intro h
    split at h
    · simp at h
    · next before rest hcut =>
      rw [Bool.and_eq_true, beq_iff_eq] at h
      obtain ⟨hcloses, haddress⟩ := h
      obtain ⟨inner, rfl⟩ := List.getLast?_eq_some_iff.1 hcloses
      rw [List.dropLast_concat] at haddress
      obtain ⟨a, ha⟩ := Option.isSome_iff_exists.1 haddress
      refine ⟨before, inner, a, ?_, ha⟩
      rw [(cutLast_eq_some hcut).1, List.append_assoc, List.cons_append]
  · rintro ⟨before, inner, a, rfl, ha⟩
    have hlast : '[' ∉ inner ++ [']'] := by
      simp [IpAddress.not_mem_of_read? hopens ha]
    rw [List.append_assoc, List.cons_append, cutLast_append '[' before _ hlast]
    simp [ha]

example : accepts "a@[1.2.3.4][5.6.7.8]".toList = true := by decide

end Email

end TokenAuth
