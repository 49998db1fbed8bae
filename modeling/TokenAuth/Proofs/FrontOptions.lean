import TokenAuth.Proofs.CommandLines

/-!
An option in front of a command line, with its value as the next argument. If the line is accepted and does
not give that option itself, it is accepted with the option in front, with the same values and the new
one. Nothing that is taken in later asks for what has been taken in, except to refuse an option that is given
twice.
-/
namespace TokenAuth.CommandLine

open Text

variable {spec : Spec} {environment : List (String × String)} {values older : Values} {o : OptionSpec}
  {args : List String} {long value : String}

theorem lookup_single_of_ne {name : String} (h : long ≠ name) :
    List.lookup long [(name, value)] = none := by
  rw [List.lookup_cons, beq_false_of_ne h]
  rfl

namespace Progress

variable {p p' : Progress}

/-- The same progress if these values had been taken in before. -/
def after (p : Progress) (older : Values) : Progress := { p with values := p.values ++ older }

/-- None of the options that have these values has been named. -/
structure Spares (p : Progress) (older : Values) : Prop where
  values : ∀ long, p.values.lookup long = none ∨ older.lookup long = none
  pending : ∀ o seen, p.pending = some (o, seen) → older.lookup o.long = none

/-- If what is named in the end spares the older values, they make no difference. -/
def Lifts (older : Values) (f : Progress → Except UsageError Progress) : Prop :=
  ∀ p p', f p = .ok p' → p'.Spares older → p.Spares older ∧ f (p.after older) = .ok (p'.after older)

theorem store_eq_ok_iff : p.store o value = .ok p' ↔
    p.values.lookup o.long = none ∧ o.accepts value = true ∧
      p' = { p with values := (o.long, value) :: p.values } := by
  unfold store
  cases hfound : p.values.lookup o.long with
  | some _ => simp
  | none => cases haccepts : o.accepts value <;> simp [eq_comm]

theorem Spares.of_cons {values : Values} {pending : Option (OptionSpec × Option String)}
    (h : Spares ⟨(long, value) :: values, pending⟩ older) :
    older.lookup long = none ∧ Spares ⟨values, pending⟩ older := by
  have hlast : older.lookup long = none := by
    rcases h.values long with hsome | hnone
    · simp at hsome
    · exact hnone
  refine ⟨hlast, ⟨?_, h.pending⟩⟩
  intro name
  rcases h.values name with hfirst | hold
  · rw [List.lookup_cons] at hfirst
    split at hfirst
    · simp at hfirst
    · exact Or.inl hfirst
  · exact Or.inr hold

theorem store_after (h : p.store o value = .ok p') (hspares : p'.Spares older) :
    older.lookup o.long = none ∧ p.Spares older ∧ (p.after older).store o value = .ok (p'.after older) := by
  obtain ⟨hfree, haccepts, rfl⟩ := store_eq_ok_iff.1 h
  obtain ⟨hnone, hp⟩ := hspares.of_cons
  refine ⟨hnone, hp, store_eq_ok_iff.2 ⟨?_, haccepts, rfl⟩⟩
  rw [after, List.lookup_append, hfree, hnone, Option.or_none]

theorem pending_of_resolve (h : p.resolve = .ok p') : p'.pending = none := by
  unfold resolve at h
  split at h
  · next hnone =>
    rw [← Except.ok.inj h]
    exact hnone
  · simp at h
  · obtain ⟨-, -, rfl⟩ := store_eq_ok_iff.1 h
    rfl

theorem lifts_resolve : Lifts older resolve := by
  intro p p' h hspares
  cases hpending : p.pending with
  | none =>
    have hsame : p = p' := by simpa [resolve, hpending] using h
    subst hsame
    exact ⟨hspares, by simp [resolve, after, hpending]⟩
  | some named =>
    obtain ⟨o, _ | value⟩ := named
    · simp [resolve, hpending] at h
    · have hstore : ({ p with pending := none } : Progress).store o value = .ok p' := by
        simpa [resolve, hpending] using h
      obtain ⟨hnone, hcleared, hlifted⟩ := store_after hstore hspares
      refine ⟨⟨hcleared.values, ?_⟩, ?_⟩
      · intro o' seen hnamed
        rw [hpending, Option.some.injEq, Prod.mk.injEq] at hnamed
        rw [← hnamed.1]
        exact hnone
      · rw [← hlifted]
        simp [resolve, after, hpending]

theorem lifts_takeOption (o : OptionSpec) (attached : Option String) :
    Lifts older (·.takeOption o attached) := by
  intro p p' h hspares
  simp only [takeOption] at h ⊢
  split at h
  · simp at h
  · next p₁ hresolved =>
    cases attached with
    | some value =>
      obtain ⟨-, hspares₁, hlifted⟩ := store_after h hspares
      obtain ⟨hp, hresolved'⟩ := lifts_resolve p p₁ hresolved hspares₁
      exact ⟨hp, by simp only [hresolved', hlifted]⟩
    | none =>
      have hnamed := Except.ok.inj h
      have hspares₁ : p₁.Spares older := by
        refine ⟨?_, ?_⟩
        · rw [← hnamed] at hspares
          exact hspares.values
        · simp [pending_of_resolve hresolved]
      obtain ⟨hp, hresolved'⟩ := lifts_resolve p p₁ hresolved hspares₁
      refine ⟨hp, ?_⟩
      simp only [hresolved']
      rw [← hnamed]
      rfl

theorem lifts_takeValue (value : String) : Lifts older (·.takeValue value) := by
  intro p p' h hspares
  simp only [takeValue] at h ⊢
  split at h
  · next o hpending =>
    have hnamed := Except.ok.inj h
    rw [← hnamed] at hspares ⊢
    refine ⟨⟨hspares.values, ?_⟩, by simp only [after, hpending]⟩
    intro o' seen hpending'
    rw [hpending, Option.some.injEq, Prod.mk.injEq] at hpending'
    rw [← hpending'.1]
    exact hspares.pending o (some value) rfl
  · simp at h

theorem takeLong_cases (spec : Spec) (cs : List Char) :
    (∃ o attached, ∀ p, takeLong spec p cs = takeOption p o attached) ∨
      ∀ p, ∃ e, takeLong spec p cs = .error e := by
  unfold takeLong
  generalize cutFirst '=' cs = cut
  split
  next name attached _ =>
    split
    · next o _ => exact Or.inl ⟨o, attached, fun _ => rfl⟩
    · refine Or.inr fun p => ?_
      split <;> exact ⟨_, rfl⟩

theorem takeLetter_cases (spec : Spec) (c : Char) (rest : List Char) :
    (∃ o attached, ∀ p, takeLetter spec p c rest = takeOption p o attached) ∨
      ∀ p, ∃ e, takeLetter spec p c rest = .error e := by
  unfold takeLetter
  split
  · exact Or.inl ⟨_, _, fun _ => rfl⟩
  · exact Or.inr fun _ => ⟨_, rfl⟩

/-- All that an argument can do: it names an option, it is the value of one, or it is an error. -/
theorem takeArgument_cases (spec : Spec) (arg : String) :
    (∃ o attached, ∀ p, takeArgument spec p arg = takeOption p o attached) ∨
      (∀ p, takeArgument spec p arg = takeValue p arg) ∨
      ∀ p, ∃ e, takeArgument spec p arg = .error e := by
  unfold takeArgument
  split
  · next cs _ => exact (takeLong_cases spec cs).imp_right Or.inr
  · next c cs _ _ => exact (takeLetter_cases spec c cs).imp_right Or.inr
  · exact Or.inr (Or.inl fun _ => rfl)

theorem lifts_takeArgument (arg : String) : Lifts older (takeArgument spec · arg) := by
  intro p p' h hspares
  rcases takeArgument_cases spec arg with ⟨o, attached, htake⟩ | htake | hfails
  · simp only [htake] at h ⊢
    exact lifts_takeOption o attached p p' h hspares
  · simp only [htake] at h ⊢
    exact lifts_takeValue arg p p' h hspares
  · obtain ⟨e, he⟩ := hfails p
    simp only [he] at h
    simp at h

theorem lifts_takeAll (args : List String) : Lifts older (takeAll spec · args) := by
  induction args with
  | nil =>
    intro p p' h hspares
    rw [← Except.ok.inj h] at hspares ⊢
    exact ⟨hspares, rfl⟩
  | cons arg args ih =>
    intro p p' h hspares
    simp only [takeAll] at h ⊢
    split at h
    · next hdashes =>
      split at h
      · next hlast =>
        rw [← Except.ok.inj h] at hspares ⊢
        exact ⟨hspares, by rw [if_pos hdashes, if_pos hlast]⟩
      · simp at h
    · next hdashes =>
      split at h
      · simp at h
      · next p₁ hfirst =>
        obtain ⟨hspares₁, hrest⟩ := ih p₁ p' h hspares
        obtain ⟨hp, hfirst'⟩ := lifts_takeArgument arg p p₁ hfirst hspares₁
        refine ⟨hp, ?_⟩
        rw [if_neg hdashes]
        simp only [hfirst', hrest]

variable {q : Progress}

theorem resolve_of_resolve (hq : q.resolve = .ok p) : p.resolve = .ok p := by
  unfold resolve
  rw [pending_of_resolve hq]

/-- The value of the option before is taken in with the next option, or at the end of the line. -/
theorem takeArgument_of_resolve {arg : String} (hq : q.resolve = .ok p)
    (h : takeArgument spec p arg = .ok p') : takeArgument spec q arg = .ok p' := by
  rcases takeArgument_cases spec arg with ⟨o, attached, htake⟩ | htake | hfails
  · rw [htake] at h ⊢
    rw [← h, takeOption, takeOption, hq, resolve_of_resolve hq]
  · rw [htake, takeValue, pending_of_resolve hq] at h
    simp at h
  · obtain ⟨e, he⟩ := hfails p
    rw [he] at h
    simp at h

theorem takeAll_of_resolve (hq : q.resolve = .ok p) (h : takeAll spec p args = .ok p') :
    ∃ q', takeAll spec q args = .ok q' ∧ q'.resolve = p'.resolve := by
  cases args with
  | nil =>
    rw [← Except.ok.inj h]
    exact ⟨q, rfl, hq.trans (resolve_of_resolve hq).symm⟩
  | cons arg args =>
    simp only [takeAll] at h ⊢
    split at h
    · next hdashes =>
      split at h
      · next hlast =>
        rw [← Except.ok.inj h]
        exact ⟨q, by rw [if_pos hdashes, if_pos hlast], hq.trans (resolve_of_resolve hq).symm⟩
      · simp at h
    · next hdashes =>
      split at h
      · simp at h
      · next p₁ hfirst =>
        refine ⟨p', ?_, rfl⟩
        rw [if_neg hdashes]
        simp only [takeArgument_of_resolve hq hfirst, h]

/-- An option by its long name and its value, at the start of a line. -/
theorem takeAll_front (hfound : spec.find? (·.long = o.long) = some o) (hlong : o.long ≠ "")
    (hequals : '=' ∉ o.long.toList) (hvalue : value.toList.head? ≠ some '-') (args : List String) :
    takeAll spec start (("--" ++ o.long) :: value :: args) =
      takeAll spec ⟨[], some (o, some value)⟩ args := by
  have hname : "--" ++ o.long ≠ "--" := by simpa using hlong
  have hdashes : value ≠ "--" := by
    rintro rfl
    exact hvalue rfl
  have hcut : cutFirst '=' o.long.toList = none := cutFirst_eq_none_iff.2 hequals
  have hoption : takeArgument spec start ("--" ++ o.long) = .ok ⟨[], some (o, none)⟩ := by
    have htext : ("--" ++ o.long).toList = '-' :: '-' :: o.long.toList := by simp
    unfold takeArgument
    simp only [htext, takeLong, hcut, String.ofList_toList, hfound]
    rfl
  have htaken : takeArgument spec ⟨[], some (o, none)⟩ value = .ok ⟨[], some (o, some value)⟩ := by
    unfold takeArgument
    split
    · next heq => simp [heq] at hvalue
    · next heq => simp [heq] at hvalue
    · rfl
  rw [takeAll, if_neg hname]
  simp only [hoption]
  rw [takeAll, if_neg hdashes]
  simp only [htaken]

/-- Its value is taken in before all others. -/
theorem exists_takeAll_front (hfound : spec.find? (·.long = o.long) = some o) (hlong : o.long ≠ "")
    (hequals : '=' ∉ o.long.toList) (hvalue : value.toList.head? ≠ some '-')
    (haccepts : o.accepts value = true) (htaken : takeAll spec start args = .ok p)
    (hresolved : p.resolve = .ok p') (hnone : p'.values.lookup o.long = none) :
    ∃ q, takeAll spec start (("--" ++ o.long) :: value :: args) = .ok q ∧
      q.resolve = .ok (p'.after [(o.long, value)]) := by
  have hspares : p'.Spares [(o.long, value)] := by
    refine ⟨?_, by simp [pending_of_resolve hresolved]⟩
    intro long
    by_cases hsame : long = o.long
    · exact Or.inl (hsame ▸ hnone)
    · exact Or.inr (lookup_single_of_ne hsame)
  -- The end of the line spares the new value, and by that every progress before it does.
  obtain ⟨hspares', hresolved'⟩ := lifts_resolve p p' hresolved hspares
  obtain ⟨-, htaken'⟩ := lifts_takeAll args start p htaken hspares'
  have hfirst : (⟨[], some (o, some value)⟩ : Progress).resolve =
      .ok (start.after [(o.long, value)]) := by
    simp only [resolve, store, haccepts]
    rfl
  obtain ⟨q, hq, hsame⟩ := takeAll_of_resolve hfirst htaken'
  exact ⟨q, (takeAll_front hfound hlong hequals hvalue args).trans hq, hsame.trans hresolved'⟩

end Progress

/-- Adds what the environment gives for one option. -/
def addVariable (environment : List (String × String)) (values : Values) (o : OptionSpec) : Values :=
  if (values.lookup o.long).isSome then values
  else
    match o.fromEnvironment.bind fun name => List.lookup name environment with
    | some value => (o.long, value) :: values
    | none => values

theorem addVariables_cons (os : Spec) (values : Values) : addVariables (o :: os) environment values =
    addVariables os environment (addVariable environment values o) := rfl

theorem addVariable_append (hold : older.lookup o.long = none ∨ o.fromEnvironment = none)
    (values : Values) : addVariable environment (values ++ older) o =
      addVariable environment values o ++ older := by
  unfold addVariable
  rw [List.lookup_append]
  rcases hold with hnone | hline
  · rw [hnone, Option.or_none]
    split
    · rfl
    · split <;> rfl
  · simp only [hline, Option.bind_none]
    split <;> split <;> rfl

theorem addVariables_append (os : Spec) (hold : ∀ o ∈ os, older.lookup o.long = none ∨
    o.fromEnvironment = none) (values : Values) :
    addVariables os environment (values ++ older) = addVariables os environment values ++ older := by
  induction os generalizing values with
  | nil => rfl
  | cons o os ih =>
    rw [addVariables_cons, addVariables_cons, addVariable_append (hold o List.mem_cons_self)]
    exact ih (fun o' ho' => hold o' (List.mem_cons_of_mem o ho')) _

theorem lookup_of_addVariable (h : (addVariable environment values o).lookup long = none) :
    values.lookup long = none := by
  unfold addVariable at h
  split at h
  · exact h
  · split at h
    · rw [List.lookup_cons] at h
      split at h
      · simp at h
      · exact h
    · exact h

theorem lookup_of_addVariables (os : Spec) (values : Values)
    (h : (addVariables os environment values).lookup long = none) : values.lookup long = none := by
  induction os generalizing values with
  | nil => exact h
  | cons o os ih => exact lookup_of_addVariable (ih _ h)

/-- An option can be given in front of a line that does not give it, with its value apart. -/
theorem parse_front (hfound : spec.find? (·.long = o.long) = some o) (hlong : o.long ≠ "")
    (hequals : '=' ∉ o.long.toList) (hvalue : value.toList.head? ≠ some '-')
    (haccepts : o.accepts value = true)
    (hline : ∀ o' ∈ spec, o'.long = o.long → o'.fromEnvironment = none)
    (h : parse spec environment args = .ok values) (hnone : values.lookup o.long = none) :
    parse spec environment (("--" ++ o.long) :: value :: args) =
      .ok (values ++ [(o.long, value)]) := by
  obtain ⟨p, p', htaken, hresolved, hvalues, hrequired⟩ := parse_eq_ok_iff.1 h
  obtain ⟨q, htaken', hresolved'⟩ := Progress.exists_takeAll_front hfound hlong hequals hvalue
    haccepts htaken hresolved (lookup_of_addVariables spec _ (hvalues ▸ hnone))
  have hold : ∀ o' ∈ spec, List.lookup o'.long [(o.long, value)] = none ∨
      o'.fromEnvironment = none := by
    intro o' ho'
    by_cases hsame : o'.long = o.long
    · exact Or.inr (hline o' ho' hsame)
    · exact Or.inl (lookup_single_of_ne hsame)
  refine parse_eq_ok_iff.2 ⟨q, _, htaken', hresolved', ?_, ?_⟩
  · rw [← hvalues]
    exact addVariables_append spec hold p'.values
  · intro o' ho' hreq
    rw [List.lookup_append, Option.isSome_or, hrequired o' ho' hreq, Bool.true_or]

end TokenAuth.CommandLine
