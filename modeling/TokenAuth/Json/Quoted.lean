import TokenAuth.Json.Fault

/-!
Strings in double quotes. A quote, a backslash and control characters are written as escapes, with
letters for the usual ones; all other characters stand for themselves. Reading takes every escape, and
pairs of surrogates in place of a character; skipping looks at the form of escapes only.
-/
namespace TokenAuth.Json

open Text

/-- A character inside quotes. -/
def escape (c : Char) : List Char :=
  if c = '"' then ['\\', '"']
  else if c = '\\' then ['\\', '\\']
  else if c = '\x08' then ['\\', 'b']
  else if c = '\x0C' then ['\\', 'f']
  else if c = '\n' then ['\\', 'n']
  else if c = '\r' then ['\\', 'r']
  else if c = '\t' then ['\\', 't']
  else if c.toNat < 32 then
    ['\\', 'u', '0', '0', hexDigit (c.toNat / 16), hexDigit (c.toNat % 16)]
  else [c]

def quoted (cs : List Char) : List Char := '"' :: cs.flatMap escape ++ ['"']

/-- Four hexadecimal digits. Fewer than four bytes to the end of the text are an end too early. -/
def readHex4 (cs : List Char) : Except Fault (Nat × List Char) :=
  if (cs.take 4).foldl (fun n c => n + c.utf8Size) 0 < 4 then .error .truncated
  else
    match cs with
    | a :: b :: c :: d :: r =>
      match hexNumber? [a, b, c, d] with
      | some n => .ok (n, r)
      | none => .error .malformed
    | _ => .error .malformed

/-- The low half of a pair of surrogates, as an escape. -/
def readLowSurrogate (high : Nat) : List Char → Except Fault (Char × List Char)
  | [] => .error .truncated
  | ['\\'] => .error .truncated
  | '\\' :: 'u' :: r =>
    match readHex4 r with
    | .error f => .error f
    | .ok (low, r) =>
      if 0xDC00 ≤ low ∧ low ≤ 0xDFFF then
        .ok (Char.ofNat (0x10000 + (high - 0xD800) * 0x400 + (low - 0xDC00)), r)
      else .error .malformed
  | _ => .error .malformed

/-- The character of an escape, after its backslash. -/
def readEscape : List Char → Except Fault (Char × List Char)
  | [] => .error .truncated
  | '"' :: r => .ok ('"', r)
  | '\\' :: r => .ok ('\\', r)
  | '/' :: r => .ok ('/', r)
  | 'b' :: r => .ok ('\x08', r)
  | 'f' :: r => .ok ('\x0C', r)
  | 'n' :: r => .ok ('\n', r)
  | 'r' :: r => .ok ('\r', r)
  | 't' :: r => .ok ('\t', r)
  | 'u' :: r =>
    match readHex4 r with
    | .error f => .error f
    | .ok (n, r) =>
      if n < 0xD800 ∨ 0xDFFF < n then .ok (Char.ofNat n, r)
      else if n < 0xDC00 then readLowSurrogate n r
      else .error .malformed
  | _ => .error .malformed

def skipEscape : List Char → Except Fault (List Char)
  | [] => .error .truncated
  | 'u' :: r => (readHex4 r).map (·.2)
  | c :: r =>
    if ['"', '\\', '/', 'b', 'f', 'n', 'r', 't'].contains c then .ok r else .error .malformed

theorem readHex4_length {cs r : List Char} {n : Nat} (h : readHex4 cs = .ok (n, r)) :
    r.length < cs.length := by
  unfold readHex4 at h
  split at h
  · simp at h
  · split at h
    · split at h
      · simp only [Except.ok.injEq, Prod.mk.injEq] at h
        simp only [← h.2, List.length_cons]
        omega
      · simp at h
    · simp at h

theorem readEscape_length {cs r : List Char} {c : Char} (h : readEscape cs = .ok (c, r)) :
    r.length < cs.length := by
  unfold readEscape at h
  split at h
  all_goals first
    | (simp only [Except.ok.injEq, Prod.mk.injEq] at h; simp [← h.2])
    | simp at h
    | skip
  split at h
  · simp at h
  · next n r' hr =>
    have h₁ := readHex4_length hr
    split at h
    · simp only [Except.ok.injEq, Prod.mk.injEq] at h
      simp only [← h.2, List.length_cons]
      omega
    · split at h
      · unfold readLowSurrogate at h
        split at h
        · simp at h
        · simp at h
        · split at h
          · simp at h
          · next m r'' hm =>
            have h₂ := readHex4_length hm
            split at h
            · simp only [Except.ok.injEq, Prod.mk.injEq] at h
              simp only [← h.2, List.length_cons] at *
              omega
            · simp at h
        · simp at h
      · simp at h

theorem skipEscape_length {cs r : List Char} (h : skipEscape cs = .ok r) : r.length < cs.length := by
  unfold skipEscape at h
  split at h
  · simp at h
  · next r' =>
    cases hr : readHex4 r' with
    | error f => simp [hr, Except.map] at h
    | ok p =>
      simp only [hr, Except.map, Except.ok.injEq] at h
      have := readHex4_length hr
      simp only [← h, List.length_cons]
      omega
  · split at h
    · simp only [Except.ok.injEq] at h
      simp [h]
    · simp at h

/-- Reads a string, after its opening quote. -/
def readQuoted (cs : List Char) : Except Fault (List Char × List Char) :=
  match cs with
  | [] => .error .truncated
  | '"' :: r => .ok ([], r)
  | '\\' :: r =>
    match _h : readEscape r with
    | .error f => .error f
    | .ok (c, r') => (readQuoted r').map fun p => (c :: p.1, p.2)
  | c :: r => if c.toNat < 32 then .error .malformed else (readQuoted r).map fun p => (c :: p.1, p.2)
termination_by cs.length
decreasing_by
  · have := readEscape_length _h
    simp only [List.length_cons]
    omega
  · simp

/-- Skips a string, after its opening quote. -/
def skipQuoted (cs : List Char) : Except Fault (List Char) :=
  match cs with
  | [] => .error .truncated
  | '"' :: r => .ok r
  | '\\' :: r =>
    match _h : skipEscape r with
    | .error f => .error f
    | .ok r' => skipQuoted r'
  | c :: r => if c.toNat < 32 then .error .malformed else skipQuoted r
termination_by cs.length
decreasing_by
  · have := skipEscape_length _h
    simp only [List.length_cons]
    omega
  · simp

end TokenAuth.Json
