import TokenAuth.Proofs.UserRows
import TokenAuth.Service.Run

/-!
What a step can do, and what a run can change. The issuer stays the same, the store is never opened
again, and the table of users either stays or takes in one more row at each step; so a row that is there
stays there.
-/
namespace TokenAuth.Service

namespace Step

/-- The number that a step brings for its row. -/
def givenId? : Step → Option Int64
  | .insert id? _ _ _ _ => id?
  | _ => none

/-- The email address that a step would write. -/
def email? : Step → Option String
  | .add u => some u.email.text
  | .insert _ _ email _ _ => some email
  | _ => none

/-- The row that a step has written, judged by what it shows. -/
def row? : Step → Outcome → Option UserRow
  | .add u, .added (.ok i) => some (u.row i.id)
  | .insert _ name email hash created, .inserted (.ok id) => some ⟨id, name, email, hash, created⟩
  | _, _ => none

end Step

/-- Why nothing was written, if a step was to write. -/
def Outcome.error? : Outcome → Option StoreError
  | .added (.error e) => some e
  | .inserted (.error e) => some e
  | _ => none

namespace Store

theorem insert_eq_ok {s s' : Store} {id? : Option Int64} {name email hash : String}
    {created id : Int64} (h : s.insert id? name email hash created = .ok (id, s')) :
    s.isOpen = true ∧ s'.isOpen = true ∧
      s.table.insert id? name email hash created = .ok (id, s'.table) := by
  unfold insert at h
  split at h
  · next hopen =>
    split at h
    · simp at h
    · next id' t hinsert =>
      have hpair := Except.ok.inj h
      simp only [Prod.mk.injEq] at hpair
      obtain ⟨rfl, rfl⟩ := hpair
      exact ⟨hopen, hopen, hinsert⟩
  · simp at h

theorem add_eq_ok {s s' : Store} {u : NewUser} {i : Identity} (h : s.add u = .ok (i, s')) :
    s.isOpen = true ∧ s'.isOpen = true ∧ s.table.add u = .ok (i, s'.table) := by
  unfold add at h
  split at h
  · next hopen =>
    split at h
    · simp at h
    · next i' t hadd =>
      have hpair := Except.ok.inj h
      simp only [Prod.mk.injEq] at hpair
      obtain ⟨rfl, rfl⟩ := hpair
      exact ⟨hopen, hopen, hadd⟩
  · simp at h

theorem insert_eq_error {s : Store} {id? : Option Int64} {name email hash : String}
    {created : Int64} {e : StoreError} (h : s.insert id? name email hash created = .error e) :
    e = .closed ∧ s.isOpen = false ∨ s.table.insert id? name email hash created = .error e := by
  unfold insert at h
  split at h
  · split at h
    · next e' hinsert =>
      rw [← Except.error.inj h]
      exact Or.inr hinsert
    · simp at h
  · next hclosed => exact Or.inl ⟨(Except.error.inj h).symm, Bool.eq_false_iff.2 hclosed⟩

/-- Adding a user fails as inserting its row does. -/
theorem insert_of_add_error {s : Store} {u : NewUser} {e : StoreError} (h : s.add u = .error e) :
    s.insert none u.name.text u.email.text u.hash.text (Int64.ofInt u.created.seconds) = .error e := by
  cases hopen : s.isOpen with
  | false => simpa [add, insert, hopen] using h
  | true =>
    cases hinsert : s.table.insert none u.name.text u.email.text u.hash.text
        (Int64.ofInt u.created.seconds) with
    | error e' => simpa [add, insert, UserTable.add, hopen, hinsert] using h
    | ok p => simp [add, UserTable.add, hopen, hinsert] at h

end Store

namespace Server

/-- What a step does to the server, with what it shows. -/
inductive Effect (s : Server) : Step → Server → Outcome → Prop
  | wrote {x : Step} {o : Outcome} {r : UserRow} {t : UserTable} (hrow : x.row? o = some r)
      (herror : o.error? = none) (hemail : x.email? = some r.email) (hopen : s.store.isOpen = true)
      (hinsert : s.store.table.insert x.givenId? r.name r.email r.hash r.created = .ok (r.id, t)) :
      Effect s x { s with store := ⟨t, true⟩ } o
  | failed {x : Step} {o : Outcome} {e : StoreError} {name email hash : String} {created : Int64}
      (hrow : x.row? o = none) (herror : o.error? = some e) (hemail : x.email? = some email)
      (hinsert : s.store.insert x.givenId? name email hash created = .error e) : Effect s x s o
  | setClock (t : Instant) : Effect s (.setClock t) { s with now := t } (.clockSet t)
  | closeStore : Effect s .closeStore { s with store := s.store.close } .storeClosed
  | request (r : Request) : Effect s (.request r) s (.answered (s.answer r))

theorem step_effect (s : Server) (x : Step) : ∃ s' o, s.step x = (s', o) ∧ Effect s x s' o := by
  refine ⟨_, _, rfl, ?_⟩
  cases x with
  | add u =>
    cases hadd : s.store.add u with
    | error e =>
      simp only [hadd]
      exact .failed rfl rfl rfl (Store.insert_of_add_error hadd)
    | ok p =>
      obtain ⟨i, t, isOpen⟩ := p
      obtain ⟨hopen, rfl, htable⟩ := Store.add_eq_ok hadd
      obtain ⟨-, hinsert⟩ := UserTable.add_eq_ok htable
      simp only [hadd]
      exact .wrote rfl rfl rfl hopen hinsert
  | insert id? name email hash created =>
    cases hinsert : s.store.insert id? name email hash created with
    | error e =>
      simp only [hinsert]
      exact .failed rfl rfl rfl hinsert
    | ok p =>
      obtain ⟨id, t, isOpen⟩ := p
      obtain ⟨hopen, rfl, htable⟩ := Store.insert_eq_ok hinsert
      simp only [hinsert]
      exact .wrote rfl rfl rfl hopen htable
  | setClock t => exact .setClock t
  | closeStore => exact .closeStore
  | request r => exact .request r

theorem step_issuer (s : Server) (x : Step) : (s.step x).1.issuer = s.issuer := by
  obtain ⟨s', o, hstep, heffect⟩ := s.step_effect x
  rw [hstep]
  cases heffect <;> rfl

theorem step_now (s : Server) {x : Step} (hx : ∀ t, x ≠ .setClock t) : (s.step x).1.now = s.now := by
  obtain ⟨s', o, hstep, heffect⟩ := s.step_effect x
  rw [hstep]
  cases heffect with
  | setClock t => exact absurd rfl (hx t)
  | wrote => rfl
  | failed => rfl
  | closeStore => rfl
  | request => rfl

/-- A step that writes no row leaves the table alone. -/
theorem step_row (s : Server) (x : Step) :
    x.row? (s.step x).2 = none ∧ (s.step x).1.store.table = s.store.table ∨
      ∃ r, x.row? (s.step x).2 = some r ∧ x.email? = some r.email ∧
        s.store.table.insert x.givenId? r.name r.email r.hash r.created =
          .ok (r.id, (s.step x).1.store.table) := by
  obtain ⟨s', o, hstep, heffect⟩ := s.step_effect x
  rw [hstep]
  cases heffect with
  | wrote hrow herror hemail hopen hinsert => exact Or.inr ⟨_, hrow, hemail, hinsert⟩
  | failed hrow => exact Or.inl ⟨hrow, rfl⟩
  | setClock t => exact Or.inl ⟨rfl, rfl⟩
  | closeStore => exact Or.inl ⟨rfl, rfl⟩
  | request r => exact Or.inl ⟨rfl, rfl⟩

/-- A step that fails was to insert a row, and changes nothing. -/
theorem step_error {s : Server} {x : Step} {e : StoreError} (he : (s.step x).2.error? = some e) :
    (s.step x).1 = s ∧ ∃ name email hash created, x.email? = some email ∧
      s.store.insert x.givenId? name email hash created = .error e := by
  obtain ⟨s', o, hstep, heffect⟩ := s.step_effect x
  rw [hstep] at he ⊢
  cases heffect with
  | wrote hrow herror => simp [herror] at he
  | failed hrow herror hemail hinsert =>
    rw [herror] at he
    rw [Option.some.inj he] at hinsert
    exact ⟨rfl, _, _, _, _, hemail, hinsert⟩
  | setClock t => simp [Outcome.error?] at he
  | closeStore => simp [Outcome.error?] at he
  | request r => simp [Outcome.error?] at he

theorem run_issuer (s : Server) (steps : List Step) : (s.run steps).issuer = s.issuer := by
  induction steps generalizing s with
  | nil => rfl
  | cons x xs ih =>
    have hrest : ((s.step x).1.run xs).issuer = (s.step x).1.issuer := ih _
    rw [step_issuer] at hrest
    exact hrest

theorem step_row? {s : Server} (x : Step) {email : String} {r : UserRow}
    (hr : s.store.table.row? email = some r) : (s.step x).1.store.table.row? email = some r := by
  rcases s.step_row x with ⟨-, hsame⟩ | ⟨_, -, -, hinsert⟩
  · rw [hsame]
    exact hr
  · exact UserTable.row?_insert_of_some hinsert hr

theorem run_row? {s : Server} (steps : List Step) {email : String} {r : UserRow}
    (hr : s.store.table.row? email = some r) :
    (s.run steps).store.table.row? email = some r := by
  induction steps generalizing s with
  | nil => exact hr
  | cons x xs ih => exact ih (step_row? x hr)

end Server

end TokenAuth.Service
