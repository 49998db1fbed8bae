import Mathlib.Data.List.Nodup
import TokenAuth.Proofs.GateVerdicts
import TokenAuth.Proofs.ServerRuns

/-!
The table of users as the history of what was inserted. Its rows are those whose inserts succeeded, in
their order and as they were given. Two rows never share a number or an email address; the next number
lies above every number used before, whoever chose that one. An insert fails for one of few reasons, all
of them to be found among the rows, and then nothing has changed.
-/
namespace TokenAuth

namespace UserTable

variable {t t' : UserTable} {id? : Option Int64} {name email hash : String} {created id : Int64}

/-- No number and no email address twice, and no number above the largest one noted. -/
structure WellFormed (t : UserTable) : Prop where
  ids : (t.rows.map (·.id)).Nodup
  emails : (t.rows.map (·.email)).Nodup
  id_le : ∀ r ∈ t.rows, r.id.toInt ≤ t.lastId.toInt
  lastId_nonneg : 0 ≤ t.lastId.toInt
  /-- The largest number noted is one that was used. -/
  last : t.lastId = 0 ∨ ∃ r ∈ t.rows, r.id = t.lastId

theorem empty_wellFormed : empty.WellFormed where
  ids := List.nodup_nil
  emails := List.nodup_nil
  id_le := by simp [empty]
  lastId_nonneg := by decide
  last := Or.inl rfl

theorem toInt_max (a b : Int64) : (max a b).toInt = max a.toInt b.toInt := by
  change (if a ≤ b then b else a).toInt = max a.toInt b.toInt
  split
  · next h =>
    rw [Int64.le_iff_toInt_le] at h
    omega
  · next h =>
    rw [Int64.le_iff_toInt_le] at h
    omega

theorem toInt_nextId? (h : t.nextId? = some id) : id.toInt = t.lastId.toInt + 1 := by
  unfold nextId? at h
  split at h
  · simp at h
  · next hlast =>
    have hne : t.lastId.toInt ≠ largestId.toInt := fun heq => hlast (Int64.toInt_inj.1 heq)
    have hlargest : largestId.toInt = 9223372036854775807 := rfl
    have hupper := t.lastId.toInt_lt
    have hlower := t.lastId.le_toInt
    have hone : (1 : Int64).toInt = 1 := rfl
    rw [← Option.some.inj h, Int64.toInt_add, hone]
    apply Int.bmod_eq_of_le <;> omega

theorem nextId?_eq_none_iff : t.nextId? = none ↔ t.lastId = largestId := by
  unfold nextId?
  split <;> simp [*]

theorem number_eq_none (h : (id? <|> t.nextId?) = none) : id? = none ∧ t.nextId? = none := by
  cases id? with
  | none => exact ⟨rfl, h⟩
  | some given => simp at h

/-- A row comes with a number or gets the next one. -/
theorem number_eq_some (h : (id? <|> t.nextId?) = some id) :
    id? = some id ∨ id? = none ∧ t.nextId? = some id := by
  cases id? with
  | none => exact Or.inr ⟨rfl, h⟩
  | some given => exact Or.inl h

/-- A number that the table assigns is above all numbers used before. -/
theorem WellFormed.lt_nextId? (ht : t.WellFormed) (h : t.nextId? = some id) :
    1 ≤ id.toInt ∧ ∀ r ∈ t.rows, r.id.toInt < id.toInt := by
  have hnext := toInt_nextId? h
  have hnonneg := ht.lastId_nonneg
  refine ⟨by omega, ?_⟩
  intro r hr
  have hle := ht.id_le r hr
  omega

theorem nodup_map_snoc {β : Type} {f : UserRow → β} {rows : List UserRow} {r : UserRow}
    (h : (rows.map f).Nodup) (hnew : ∀ r' ∈ rows, f r' ≠ f r) : ((rows ++ [r]).map f).Nodup := by
  rw [List.map_append, List.map_singleton, ← List.concat_eq_append]
  apply List.Nodup.concat _ h
  intro hmem
  obtain ⟨r', hr', hsame⟩ := List.mem_map.1 hmem
  exact hnew r' hr' hsame

theorem WellFormed.insert (ht : t.WellFormed)
    (h : t.insert id? name email hash created = .ok (id, t')) : t'.WellFormed := by
  obtain ⟨-, hid, hemail, rfl⟩ := insert_eq_ok h
  refine ⟨nodup_map_snoc ht.ids hid, nodup_map_snoc ht.emails hemail, ?_, ?_, ?_⟩
  · intro r hr
    rw [toInt_max]
    rcases List.mem_append.1 hr with hr | hr
    · have hle := ht.id_le r hr
      omega
    · rw [List.mem_singleton.1 hr]
      exact Int.le_max_right _ _
  · have hnonneg := ht.lastId_nonneg
    rw [toInt_max]
    omega
  · have hcases : max t.lastId id = t.lastId ∨ max t.lastId id = id := by
      rw [← Int64.toInt_inj, ← Int64.toInt_inj, toInt_max]
      omega
    rcases hcases with hlast | hlast
    · rw [hlast]
      rcases ht.last with hzero | ⟨r, hr, hused⟩
      · exact Or.inl hzero
      · exact Or.inr ⟨r, List.mem_append_left _ hr, hused⟩
    · exact Or.inr ⟨_, List.mem_append_right _ (List.mem_singleton_self _), hlast.symm⟩

/-- What stands in the way of an insert. -/
inductive Obstacle (t : UserTable) (id? : Option Int64) (email : String) : StoreError → Prop
  | numbersUsedUp (hid : id? = none) {r : UserRow} (hr : r ∈ t.rows) (hlast : r.id = largestId) :
      Obstacle t id? email .numbersUsedUp
  | idTaken {r : UserRow} (hr : r ∈ t.rows) (hid : id? = some r.id) : Obstacle t id? email .idTaken
  | emailTaken {r : UserRow} (hr : r ∈ t.rows) (hemail : r.email = email) :
      Obstacle t id? email .emailTaken

theorem WellFormed.obstacle (ht : t.WellFormed) {e : StoreError}
    (h : t.insert id? name email hash created = .error e) : t.Obstacle id? email e := by
  unfold UserTable.insert at h
  split at h
  · next hnone =>
    rw [← Except.error.inj h]
    obtain ⟨hid, hnext⟩ := number_eq_none hnone
    have hlast := nextId?_eq_none_iff.1 hnext
    rcases ht.last with hzero | ⟨r, hr, hused⟩
    · rw [hlast] at hzero
      exact absurd hzero (by decide)
    · exact .numbersUsedUp hid hr (hused.trans hlast)
  · next id hid =>
    split at h
    · next htaken =>
      rw [← Except.error.inj h]
      obtain ⟨r, hr, hsame⟩ := List.any_eq_true.1 htaken
      have hsame : r.id = id := of_decide_eq_true hsame
      rcases number_eq_some hid with hgiven | ⟨-, hnext⟩
      · exact .idTaken hr (by rw [hgiven, hsame])
      · -- A number that the table assigns is never taken.
        have hless := (ht.lt_nextId? hnext).2 r hr
        rw [hsame] at hless
        omega
    · split at h
      · next htaken =>
        rw [← Except.error.inj h]
        obtain ⟨r, hr, hsame⟩ := List.any_eq_true.1 htaken
        exact .emailTaken hr (of_decide_eq_true hsame)
      · simp at h

theorem WellFormed.row?_eq_some_iff (ht : t.WellFormed) {r : UserRow} :
    t.row? email = some r ↔ r ∈ t.rows ∧ r.email = email := by
  constructor
  · intro h
    exact ⟨List.mem_of_find?_eq_some h, email_of_row? h⟩
  · rintro ⟨hr, hemail⟩
    cases hfound : t.row? email with
    | none =>
      have hno := List.find?_eq_none.1 hfound r hr
      exact absurd (decide_eq_true hemail) hno
    | some r' =>
      have hr' := List.mem_of_find?_eq_some hfound
      have hsame : r'.email = r.email := (email_of_row? hfound).trans hemail.symm
      rw [List.inj_on_of_nodup_map ht.emails hr' hr hsame]

theorem row?_eq_none_iff : t.row? email = none ↔ ∀ r ∈ t.rows, r.email ≠ email := by
  simp [row?]

theorem find_of_row? {e : Email} {r : UserRow} (h : t.row? e.text = some r) :
    t.find e = r.toUser.map some := by
  simp only [find, h]
  cases r.toUser <;> rfl

theorem find_of_row?_none {e : Email} (h : t.row? e.text = none) : t.find e = .ok none := by
  simp only [find, h]

end UserTable

namespace Service

namespace Server

variable {s : Server}

/-- The rows that some steps write, in their order. -/
def written (s : Server) : List Step → List UserRow
  | [] => []
  | x :: xs => (x.row? (s.step x).2).toList ++ written (s.step x).1 xs

theorem step_wellFormed (h : s.store.table.WellFormed) (x : Step) :
    (s.step x).1.store.table.WellFormed := by
  rcases s.step_row x with ⟨-, hsame⟩ | ⟨r, -, -, hinsert⟩
  · rw [hsame]
    exact h
  · exact h.insert hinsert

theorem run_wellFormed (h : s.store.table.WellFormed) (steps : List Step) :
    (s.run steps).store.table.WellFormed := by
  induction steps generalizing s with
  | nil => exact h
  | cons x xs ih => exact ih (step_wellFormed h x)

theorem step_rows (s : Server) (x : Step) :
    (s.step x).1.store.table.rows = s.store.table.rows ++ (x.row? (s.step x).2).toList := by
  rcases s.step_row x with ⟨hnone, hsame⟩ | ⟨r, hrow, -, hinsert⟩
  · rw [hnone, hsame, Option.toList_none, List.append_nil]
  · obtain ⟨-, -, -, htable⟩ := UserTable.insert_eq_ok hinsert
    rw [hrow, htable, Option.toList_some]

theorem run_rows (s : Server) (steps : List Step) :
    (s.run steps).store.table.rows = s.store.table.rows ++ s.written steps := by
  induction steps generalizing s with
  | nil => exact (List.append_nil _).symm
  | cons x xs ih =>
    have hrest := ih (s.step x).1
    rw [step_rows, List.append_assoc] at hrest
    exact hrest

theorem obstacle_of_error (hwell : s.store.table.WellFormed) {x : Step} {e : StoreError}
    (he : (s.step x).2.error? = some e) : e = .closed ∧ s.store.isOpen = false ∨
      ∃ email, x.email? = some email ∧ s.store.table.Obstacle x.givenId? email e := by
  obtain ⟨-, name, email, hash, created, hemail, hinsert⟩ := step_error he
  rcases Store.insert_eq_error hinsert with hclosed | htable
  · exact Or.inl hclosed
  · exact Or.inr ⟨email, hemail, hwell.obstacle htable⟩

theorem insert_of_row? {x : Step} {r : UserRow} (h : x.row? (s.step x).2 = some r) :
    s.store.table.insert x.givenId? r.name r.email r.hash r.created =
      .ok (r.id, (s.step x).1.store.table) := by
  rcases s.step_row x with ⟨hnone, -⟩ | ⟨r', hrow, -, hinsert⟩
  · rw [hnone] at h
    simp at h
  · rw [hrow] at h
    rw [← Option.some.inj h]
    exact hinsert

/-- A number of its own is the number that a row gets. -/
theorem id_of_givenId? {x : Step} {r : UserRow} {id : Int64} (h : x.row? (s.step x).2 = some r)
    (hgiven : x.givenId? = some id) : r.id = id := by
  obtain ⟨hid, -⟩ := UserTable.insert_eq_ok (insert_of_row? h)
  rw [hgiven] at hid
  exact (Option.some.inj hid).symm

theorem row?_of_added {u : NewUser} {i : Identity} (h : (s.step (.add u)).2 = .added (.ok i)) :
    (Step.add u).row? (s.step (.add u)).2 = some (u.row i.id) := by
  rw [h]
  rfl

/-- The number of a new user is above all that were used. -/
theorem lt_of_added (hwell : s.store.table.WellFormed) {u : NewUser} {i : Identity}
    (h : (s.step (.add u)).2 = .added (.ok i)) :
    1 ≤ i.id ∧ ∀ r ∈ s.store.table.rows, r.id < i.id := by
  obtain ⟨hid, -⟩ := UserTable.insert_eq_ok (insert_of_row? (row?_of_added h))
  obtain ⟨hone, hless⟩ := hwell.lt_nextId? hid
  refine ⟨Int64.le_iff_toInt_le.2 hone, ?_⟩
  intro r hr
  exact Int64.lt_iff_toInt_lt.2 (hless r hr)

/-- All users that are written are found by their email addresses, at any later time and no matter
what else is written. -/
theorem find_of_mem_written {g : Issuer} {now : Instant} {steps : List Step} {e : Email} {r : UserRow}
    (hr : r ∈ (start g now).written steps) (hemail : r.email = e.text) :
    ((start g now).run steps).store.table.find e = r.toUser.map some := by
  have hwell := run_wellFormed (s := start g now) UserTable.empty_wellFormed steps
  apply UserTable.find_of_row?
  rw [hwell.row?_eq_some_iff, run_rows]
  exact ⟨List.mem_append_right _ hr, hemail⟩

theorem written_append (s : Server) (steps more : List Step) :
    s.written (steps ++ more) = s.written steps ++ (s.run steps).written more := by
  induction steps generalizing s with
  | nil => rfl
  | cons x xs ih =>
    have hrest := ih (s.step x).1
    simp only [List.cons_append, written, List.append_assoc, hrest]
    rfl

/-- A new user is found again whatever happens later, with the whole second of the creation. -/
theorem find_of_added {g : Issuer} {now : Instant} {steps : List Step} {u : NewUser} {i : Identity}
    (h : (((start g now).run steps).step (.add u)).2 = .added (.ok i)) (more : List Step) :
    ((start g now).run (steps ++ .add u :: more)).store.table.find u.email =
      .ok (some ⟨⟨i.id, u.name, u.email, u.created.wholeSecond⟩, u.hash⟩) := by
  have hmem : u.row i.id ∈ (start g now).written (steps ++ .add u :: more) := by
    rw [written_append, written, row?_of_added h, Option.toList_some]
    exact List.mem_append_right _ (List.mem_append_left _ (List.mem_singleton_self _))
  rw [find_of_mem_written hmem rfl, UserRow.toUser_ofNewUser]
  rfl

/-- The rows of the table are those that were written, and no number and no email address is there
twice. A user that is added gets a number above all that were used, and is found again whatever happens
later, with the whole second of the creation. An insert under a number of its own gets that number. An
insert that fails has one of the reasons named, and changes nothing. Whoever is looked up is the row
written under that very address, as far as its fields are accepted, or no one. -/
theorem table_of_history (g : Issuer) (now : Instant) (steps : List Step) :
    let s := (start g now).run steps
    let rows := (start g now).written steps
    s.store.table.rows = rows ∧ (rows.map (·.id)).Nodup ∧ (rows.map (·.email)).Nodup ∧
    (∀ u i, (s.step (.add u)).2 = .added (.ok i) →
      1 ≤ i.id ∧ (∀ r ∈ rows, r.id < i.id) ∧
      ∀ more, ((start g now).run (steps ++ .add u :: more)).store.table.find u.email =
        .ok (some ⟨⟨i.id, u.name, u.email, u.created.wholeSecond⟩, u.hash⟩)) ∧
    (∀ (x : Step) (r : UserRow), x.row? (s.step x).2 = some r →
      ∀ id, x.givenId? = some id → r.id = id) ∧
    (∀ (x : Step) (e : StoreError), (s.step x).2.error? = some e →
      (s.step x).1 = s ∧ (e = .closed ∧ s.store.isOpen = false ∨
        ∃ email, x.email? = some email ∧ s.store.table.Obstacle x.givenId? email e)) ∧
    (∀ e : Email, ∀ r ∈ rows, r.email = e.text →
      s.store.table.find e = r.toUser.map some ∧ ∀ u, r.toUser = .ok u ↔ r.Keeps u) ∧
    (∀ e : Email, (∀ r ∈ rows, r.email ≠ e.text) → s.store.table.find e = .ok none) := by
  intro s rows
  have hwell : s.store.table.WellFormed :=
    run_wellFormed (s := start g now) UserTable.empty_wellFormed steps
  have hrows : s.store.table.rows = rows := run_rows (start g now) steps
  refine ⟨hrows, ?_, ?_, ?_, ?_, ?_, ?_, ?_⟩
  · rw [← hrows]
    exact hwell.ids
  · rw [← hrows]
    exact hwell.emails
  · intro u i hadded
    rw [← hrows]
    obtain ⟨hone, hless⟩ := lt_of_added hwell hadded
    exact ⟨hone, hless, find_of_added hadded⟩
  · intro x r hwritten id hgiven
    exact id_of_givenId? hwritten hgiven
  · intro x e he
    exact ⟨(step_error he).1, obstacle_of_error hwell he⟩
  · intro e r hr hemail
    exact ⟨find_of_mem_written hr hemail, fun u => UserRow.toUser_eq_ok_iff⟩
  · intro e hnone
    apply UserTable.find_of_row?_none
    rw [UserTable.row?_eq_none_iff, hrows]
    exact hnone

/-- A user with some stored text in place of a hash. -/
def sampleEntry : NewUser := ⟨sampleUser.name, sampleUser.email, ⟨"hash", by decide⟩, sample.now⟩

/-- A row under the largest number, with nothing in it that would make a user. -/
def lastRow : Step := .insert (some UserTable.largestId) "" "" "" 0

/-- After the largest number has been used no user can be added, and who was there is still found. -/
theorem table_of_history_sample :
    (sample.step (.add sampleEntry)).2 = .added (.ok sampleUser) ∧
    (sample.run [.add sampleEntry, lastRow]).store.table.find sampleUser.email =
      .ok (some ⟨sampleUser, sampleEntry.hash⟩) ∧
    ((sample.run [lastRow]).step (.add sampleEntry)).2.error? = some .numbersUsedUp ∧
    ((sample.run [lastRow]).step (.add sampleEntry)).1 = sample.run [lastRow] := by
  have hadded : (sample.step (.add sampleEntry)).2 = .added (.ok sampleUser) := rfl
  have hfull : ((sample.run [lastRow]).step (.add sampleEntry)).2.error? = some .numbersUsedUp := rfl
  obtain ⟨-, -, -, hassigned, -⟩ := table_of_history sample.issuer sample.now []
  obtain ⟨-, -, -, -, -, hfailed, -⟩ := table_of_history sample.issuer sample.now [lastRow]
  obtain ⟨-, -, hfound⟩ := hassigned sampleEntry sampleUser hadded
  exact ⟨hadded, hfound [lastRow], hfull, (hfailed _ _ hfull).1⟩

end Server

end Service

end TokenAuth
