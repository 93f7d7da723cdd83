import BlockScript.TypeTable

/-!
Computations that end with a value or with a cause: when a sequence of them ends in which way, and
what holds of the value and of the cause.
-/
namespace BlockScript

section Sequence

variable {ε ε' α β : Type} {x : Except ε α} {f : α → Except ε β}

theorem bind_eq_ok_iff {b : β} : x >>= f = .ok b ↔ ∃ a, x = .ok a ∧ f a = .ok b := by
  cases x <;> simp [bind, Except.bind]

theorem bind_eq_error_iff {e : ε} :
    x >>= f = .error e ↔ x = .error e ∨ ∃ a, x = .ok a ∧ f a = .error e := by
  cases x <;> simp [bind, Except.bind]

@[simp] theorem mapError_ok (g : ε → ε') (a : α) : (.ok a : Except ε α).mapError g = .ok a := rfl

@[simp] theorem mapError_error (g : ε → ε') (e : ε) :
    (.error e : Except ε α).mapError g = .error (g e) := rfl

theorem mapError_eq_ok_iff {g : ε → ε'} {a : α} : x.mapError g = .ok a ↔ x = .ok a := by
  cases x <;> simp

theorem mapError_eq_error_iff {g : ε → ε'} {e : ε'} :
    x.mapError g = .error e ↔ ∃ d, x = .error d ∧ e = g d := by
  cases x <;> simp [eq_comm]

theorem exists_eq_ok_of_isSome (h : x.toOption.isSome = true) : ∃ a, x = .ok a := by
  cases x with
  | error e => cases h
  | ok a => exact ⟨a, rfl⟩

theorem exists_eq_ok_of_any {p : α → Bool} (h : x.toOption.any p = true) :
    ∃ a, x = .ok a ∧ p a = true := by
  cases x with
  | error e => cases h
  | ok a => exact ⟨a, rfl, h⟩

theorem exists_eq_ok_of_map {g : α → β} {b : β} (h : x.toOption.map g = some b) :
    ∃ a, x = .ok a ∧ g a = b := by
  cases x with
  | error e => cases h
  | ok a => exact ⟨a, rfl, Option.some.inj h⟩

end Sequence

/-- The computation gives a value with `P` or fails for a cause with `E`. -/
def Meets {α : Type} (P : α → Prop) (E : Cause → Prop) : Except Cause α → Prop
  | .ok a => P a
  | .error cause => E cause

section Meets

variable {α β : Type} {P : α → Prop} {Q : β → Prop} {E : Cause → Prop} {x : Except Cause α}

theorem meets_true (x : Except Cause α) : Meets (fun _ => True) (fun _ => True) x := by
  cases x <;> trivial

theorem meets_pure {a : α} (h : P a) : Meets P E (pure a) := h

theorem meets_bind {f : α → Except Cause β} (hx : Meets P E x) (hf : ∀ a, P a → Meets Q E (f a)) :
    Meets Q E (x >>= f) := by
  cases x with
  | error cause => exact hx
  | ok a => exact hf a hx

theorem meets_map {f : α → β} (hx : Meets P E x) (hf : ∀ a, P a → Q (f a)) :
    Meets Q E (f <$> x) := by
  cases x with
  | error cause => exact hx
  | ok a => exact hf a hx

theorem meets_mono {P' : α → Prop} {E' : Cause → Prop} (hx : Meets P E x)
    (hP : ∀ a, P a → P' a) (hE : ∀ cause, E cause → E' cause) : Meets P' E' x := by
  cases x with
  | error cause => exact hE cause hx
  | ok a => exact hP a hx

theorem meets_mapM {f : α → Except Cause β} {as : List α} (hf : ∀ a ∈ as, Meets Q E (f a)) :
    Meets (fun bs => ∀ b ∈ bs, Q b) E (as.mapM f) := by
  induction as with
  | nil => exact meets_pure (by simp)
  | cons a as ih =>
    rw [List.mapM_cons]
    refine meets_bind (hf a List.mem_cons_self) ?_
    intro b hb
    refine meets_bind (ih fun a' h => hf a' (List.mem_cons_of_mem a h)) ?_
    intro bs hbs
    exact meets_pure (by simpa [hb] using hbs)

end Meets

def Category.ofLine : List Category := [.argument, .type, .reservedName, .featureDisabled]

def FailsWith {α : Type} (categories : List Category) (x : Except Cause α) : Prop :=
  Meets (fun _ => True) (·.category ∈ categories) x

section FailsWith

variable {α β : Type} {categories : List Category} {x : Except Cause α}

theorem failsWith_bind {f : α → Except Cause β} (hx : FailsWith categories x)
    (hf : ∀ a, FailsWith categories (f a)) : FailsWith categories (x >>= f) :=
  meets_bind hx fun a _ => hf a

theorem failsWith_map {f : α → β} (hx : FailsWith categories x) :
    FailsWith categories (f <$> x) := meets_map hx fun _ _ => trivial

theorem failsWith_mapM {f : α → Except Cause β} {as : List α}
    (hf : ∀ a, FailsWith categories (f a)) : FailsWith categories (as.mapM f) :=
  meets_mono (meets_mapM fun a _ => hf a) (fun _ _ => trivial) fun _ h => h

theorem failsWith_mono {more : List Category} (hx : FailsWith categories x)
    (sub : categories ⊆ more) : FailsWith more x :=
  meets_mono hx (fun _ _ => trivial) fun _ h => sub h

theorem failsWith_error (cause : Cause) :
    FailsWith [cause.category] (.error cause : Except Cause α) := List.mem_singleton.mpr rfl

theorem category_of_failsWith {cause : Cause} (h : FailsWith categories x)
    (fails : x = .error cause) : cause.category ∈ categories := by
  subst fails
  exact h

end FailsWith

/-- Both computations give values related by `R`, or both fail with errors related by `E`. -/
def Alike {ε ε' α β : Type} (E : ε → ε' → Prop) (R : α → β → Prop) :
    Except ε α → Except ε' β → Prop
  | .ok a, .ok b => R a b
  | .error e, .error e' => E e e'
  | _, _ => False

section Alike

variable {ε ε' η η' α α' β β' : Type} {E : ε → ε' → Prop} {R : α → α' → Prop} {S : β → β' → Prop}
  {x : Except ε α} {y : Except ε' α'}

theorem alike_bind {f : α → Except ε β} {g : α' → Except ε' β'} (h : Alike E R x y)
    (hf : ∀ a a', R a a' → Alike E S (f a) (g a')) : Alike E S (x >>= f) (y >>= g) := by
  match x, y, h with
  | .ok a, .ok a', h => exact hf a a' h
  | .error e, .error e', h => exact h

theorem alike_mapError {D : η → η' → Prop} {f : ε → η} {g : ε' → η'} (h : Alike E R x y)
    (hf : ∀ e e', E e e' → D (f e) (g e')) : Alike D R (x.mapError f) (y.mapError g) := by
  match x, y, h with
  | .ok a, .ok a', h => exact h
  | .error e, .error e', h => exact hf e e' h

theorem alike_refl {E : ε → ε → Prop} {R : α → α → Prop} (errors : ∀ e, E e e)
    (values : ∀ a, R a a) (x : Except ε α) : Alike E R x x := by
  cases x with
  | ok a => exact values a
  | error e => exact errors e

theorem alike_mono {E' : ε → ε' → Prop} {R' : α → α' → Prop} (h : Alike E R x y)
    (errors : ∀ e e', E e e' → E' e e') (values : ∀ a a', R a a' → R' a a') : Alike E' R' x y := by
  match x, y, h with
  | .ok a, .ok a', h => exact values a a' h
  | .error e, .error e', h => exact errors e e' h

theorem alike_and_ok (h : Alike E R x y) : Alike E (fun a a' => R a a' ∧ x = .ok a) x y := by
  match x, y, h with
  | .ok a, .ok a', h => exact ⟨h, rfl⟩
  | .error e, .error e', h => exact h

theorem alike_trans {ε'' α'' : Type} {E' : ε' → ε'' → Prop} {E'' : ε → ε'' → Prop}
    {R' : α' → α'' → Prop} {R'' : α → α'' → Prop} {z : Except ε'' α''} (first : Alike E R x y)
    (second : Alike E' R' y z) (errors : ∀ e e' e'', E e e' → E' e' e'' → E'' e e'')
    (values : ∀ a a' a'', R a a' → R' a' a'' → R'' a a'') : Alike E'' R'' x z := by
  match x, y, z, first, second with
  | .ok a, .ok a', .ok a'', first, second => exact values a a' a'' first second
  | .error e, .error e', .error e'', first, second => exact errors e e' e'' first second

theorem alike_bind_same {E : ε → ε → Prop} {f : α → Except ε β} {g : α → Except ε β'}
    (errors : ∀ e, E e e) (h : ∀ a, x = .ok a → Alike E S (f a) (g a)) :
    Alike E S (x >>= f) (x >>= g) := by
  cases x with
  | ok a => exact h a rfl
  | error e => exact errors e

theorem alike_map_same {f : α → β} {g : α → β'} (h : ∀ a, x = .ok a → S (f a) (g a)) :
    Alike Eq S (f <$> x) (g <$> x) := alike_bind_same (fun _ => rfl) h

theorem alike_cases {y : Except ε α'} (h : Alike Eq R x y) :
    (∃ e, x = .error e ∧ y = .error e) ∨ ∃ a a', x = .ok a ∧ y = .ok a' ∧ R a a' := by
  match x, y, h with
  | .ok a, .ok a', h => exact .inr ⟨a, a', rfl, rfl, h⟩
  | .error e, .error _, rfl => exact .inl ⟨e, rfl, rfl⟩

theorem exists_ok_of_alike {a : α} (h : Alike E R x y) (hx : x = .ok a) :
    ∃ a', y = .ok a' ∧ R a a' := by
  subst hx
  match y, h with
  | .ok a', h => exact ⟨a', rfl, h⟩

theorem exists_error_of_alike {e : ε} (h : Alike E R x y) (hx : x = .error e) :
    ∃ e', y = .error e' ∧ E e e' := by
  subst hx
  match y, h with
  | .error e', h => exact ⟨e', rfl, h⟩

theorem isOk_iff_of_alike (h : Alike E R x y) : (∃ a, x = .ok a) ↔ ∃ a', y = .ok a' := by
  match x, y, h with
  | .ok a, .ok a', _ => exact ⟨fun _ => ⟨a', rfl⟩, fun _ => ⟨a, rfl⟩⟩
  | .error e, .error e', _ => simp

theorem eq_ok_iff_of_alike {y : Except ε' α} {a : α} (h : Alike E Eq x y) :
    x = .ok a ↔ y = .ok a := by
  match x, y, h with
  | .ok _, .ok _, rfl => simp
  | .error e, .error e', _ => simp

theorem error_of_alike {e : ε} {e' : ε'} (h : Alike E R x y) (hx : x = .error e)
    (hy : y = .error e') : E e e' := by
  subst hx hy
  exact h

end Alike

def Agree {α β : Type} (x : Except Cause α) (y : Except Cause β) : Prop :=
  Alike (fun c d => c.category = d.category) (fun _ _ => True) x y

section Agree

variable {α α' β β' γ γ' : Type} {x : Except Cause α} {x' : Except Cause α'}

theorem agree_refl (x : Except Cause α) : Agree x x := by
  refine alike_refl ?_ ?_ x
  · exact fun cause => Eq.refl cause.category
  · exact fun _ => trivial

theorem agree_bind {f : α → Except Cause β} {g : α' → Except Cause β'} (h : Agree x x')
    (hf : ∀ a a', Agree (f a) (g a')) : Agree (x >>= f) (x' >>= g) :=
  alike_bind h fun a a' _ => hf a a'

theorem agree_bind_same {f : α → Except Cause β} {g : α → Except Cause β'}
    (h : ∀ a, x = .ok a → Agree (f a) (g a)) : Agree (x >>= f) (x >>= g) :=
  alike_bind_same (fun cause => Eq.refl cause.category) h

theorem agree_map {f : α → β} {g : α' → β'} (h : Agree x x') : Agree (f <$> x) (g <$> x') :=
  alike_bind h fun _ _ _ => trivial

theorem agree_map_right {g : α' → β'} (h : Agree x x') : Agree x (g <$> x') := by
  rw [← id_map x]
  exact agree_map h

theorem agree_mapM {f : α → Except Cause β} {g : α → Except Cause β'} {as : List α}
    (h : ∀ a, Agree (f a) (g a)) : Agree (as.mapM f) (as.mapM g) := by
  induction as with
  | nil => trivial
  | cons a as ih =>
    rw [List.mapM_cons, List.mapM_cons]
    refine agree_bind (h a) ?_
    intro _ _
    exact agree_map ih

/-- The order does not matter for computations that fail with a single category. -/
theorem agree_swap {k : Category} {y : Except Cause β} {y' : Except Cause β'}
    {f : α → β → γ} {g : β' → α' → γ'} (hx : FailsWith [k] x) (hy : FailsWith [k] y)
    (first : Agree x x') (second : Agree y y') :
    Agree (x >>= fun a => f a <$> y) (y' >>= fun b => g b <$> x') := by
  cases y with
  | ok b =>
    obtain ⟨b', rfl⟩ := (isOk_iff_of_alike second).mp ⟨b, rfl⟩
    exact agree_map first
  | error cause =>
    match y', second with
    | .error cause', second =>
      cases x with
      | ok a => exact second
      | error early =>
        have same : early.category = cause.category :=
          (List.mem_singleton.mp hx).trans (List.mem_singleton.mp hy).symm
        exact same.trans second

end Agree

theorem TypeTable.resolve_eq_ok_iff {t : TypeTable} {keyword spelling : Text} :
    t.resolve keyword = .ok spelling ↔ t.get? keyword = some spelling := by
  unfold resolve
  cases t.get? keyword <;> simp

theorem TypeTable.mem_entries_of_get? {t : TypeTable} {keyword spelling : Text}
    (h : t.get? keyword = some spelling) : (keyword, spelling) ∈ t.entries := by
  obtain ⟨front, back, entries, _⟩ := List.lookup_eq_some_iff.mp h
  simp [entries]

theorem TypeTable.resolve_failsWith (t : TypeTable) (keyword : Text) :
    FailsWith [.type] (t.resolve keyword) := by
  unfold resolve
  cases t.get? keyword with
  | none => exact failsWith_error _
  | some spelling => trivial

end BlockScript
