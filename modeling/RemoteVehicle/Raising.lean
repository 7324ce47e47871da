import Mathlib.Data.List.Infix

/-!
# Programs that keep a state and may raise

`Program ε σ` is Lean's own `ExceptT ε (StateM σ)`: a part of a program reads and writes a
state and ends with a result or an exception, and what it has written stays written when it
raises.  `runOn` runs a part on a state.

The rules below say what each construct does with the outcome of its parts, the `try`
statement with all its clauses included; and, for a program that writes into logs, which
entries it makes (`Enters`).
-/

namespace Raising

variable {ε σ α β : Type}

/-- A part of a program. -/
abbrev Program (ε σ : Type) := ExceptT ε (StateM σ)

/-- How it ends, and in which state. -/
def runOn (x : Program ε σ α) (s : σ) : Except ε α × σ := StateT.run (ExceptT.run x) s

@[simp] theorem runOn_pure (a : α) (s : σ) : runOn (pure a : Program ε σ α) s = (.ok a, s) := rfl

@[simp] theorem runOn_throw (e : ε) (s : σ) :
    runOn (throw e : Program ε σ α) s = (.error e, s) := rfl

@[simp] theorem runOn_get (s : σ) : runOn (get : Program ε σ σ) s = (.ok s, s) := rfl

@[simp] theorem runOn_modify (f : σ → σ) (s : σ) :
    runOn (modify f : Program ε σ Unit) s = (.ok (), f s) := rfl

/-- **One part after the other**: an exception skips what follows. -/
theorem runOn_bind (x : Program ε σ α) (f : α → Program ε σ β) (s : σ) :
    runOn (x >>= f) s =
      match runOn x s with
      | (.ok a, t) => runOn (f a) t
      | (.error e, t) => (.error e, t) := by
  have hrun : runOn (x >>= f) s =
      (match runOn x s with
        | (r, t) => (match r with
          | Except.ok a => ExceptT.run (f a)
          | Except.error e => (pure (Except.error e) : StateM σ (Except ε β))) t) := rfl
  rw [hrun]
  rcases runOn x s with ⟨e | a, t⟩ <;> rfl

theorem runOn_bind_ok {x : Program ε σ α} {s t : σ} {a : α} (h : runOn x s = (.ok a, t))
    (f : α → Program ε σ β) : runOn (x >>= f) s = runOn (f a) t := by
  rw [runOn_bind, h]

theorem runOn_bind_error {x : Program ε σ α} {s t : σ} {e : ε} (h : runOn x s = (.error e, t))
    (f : α → Program ε σ β) : runOn (x >>= f) s = (.error e, t) := by
  rw [runOn_bind, h]

/-- **Catching**: the handler goes on in the state in which the exception was raised. -/
theorem runOn_tryCatch (x : Program ε σ α) (f : ε → Program ε σ α) (s : σ) :
    runOn (tryCatch x f) s =
      match runOn x s with
      | (.ok a, t) => (.ok a, t)
      | (.error e, t) => runOn (f e) t := by
  have hrun : runOn (tryCatch x f) s =
      (match runOn x s with
        | (r, t) => (match r with
          | Except.ok a => (pure (Except.ok a) : StateM σ (Except ε α))
          | Except.error e => ExceptT.run (f e)) t) := rfl
  rw [hrun]
  rcases runOn x s with ⟨e | a, t⟩ <;> rfl

/-- **Finalising**: the last part runs whether or not there was an exception, and an exception of
    its own comes first. -/
theorem runOn_tryFinally (x : Program ε σ α) (y : Program ε σ β) (s : σ) :
    runOn (tryFinally x y) s =
      match runOn x s with
      | (r, t) =>
          match runOn y t with
          | (.ok _, u) => (r, u)
          | (.error e, u) => (.error e, u) := by
  rcases hx : runOn x s with ⟨e | a, t⟩ <;> rcases hy : runOn y t with ⟨e' | b, u⟩ <;>
    simp only [runOn, StateT.run, ExceptT.run] at hx hy <;>
    simp only [runOn, tryFinally, tryFinally', ExceptT.run, StateT.run, ExceptT.mk, Functor.map,
      bind, StateT.bind, ExceptT.map, hx, hy] <;> rfl

/-! ## Results -/

/-- A result of the part is this one. -/
def Returns (x : Program ε σ α) (a : α) : Prop := ∀ s b t, runOn x s = (.ok b, t) → b = a

theorem returns_pure (a : α) : Returns (pure a : Program ε σ α) a := by
  intro s b t h
  rw [runOn_pure] at h
  cases h
  rfl

/-- The result of the last part is the result. -/
theorem returns_last {b : β} (x : Program ε σ α) {k : α → Program ε σ β}
    (hk : ∀ a, Returns (k a) b) : Returns (x >>= k) b := by
  intro s c t h
  rcases hrun : runOn x s with ⟨e | a, u⟩
  · rw [runOn_bind_error hrun] at h
    cases h
  · rw [runOn_bind_ok hrun] at h
    exact hk a u c t h

/-- It may depend on the results before it. -/
theorem returns_bind {x : Program ε σ α} {a : α} {b : β} {k : α → Program ε σ β}
    (hx : Returns x a) (hk : Returns (k a) b) : Returns (x >>= k) b := by
  intro s c t h
  rcases hrun : runOn x s with ⟨e | a', u⟩
  · rw [runOn_bind_error hrun] at h
    cases h
  · rw [runOn_bind_ok hrun, hx s a' u hrun] at h
    exact hk u c t h

/-! ## Entries

A program that writes into logs: `R es s t` says that the entries `es` lead from one state to
another. -/

/-- No entry changes nothing, and entries are made one after the other. -/
structure Composes {γ : Type} (R : List γ → σ → σ → Prop) : Prop where
  nil : ∀ s, R [] s s
  append : ∀ {xs ys s t u}, R xs s t → R ys t u → R (xs ++ ys) s u

/-- The part makes these entries in this order; when it raises, the first of them. -/
def Enters {γ : Type} (R : List γ → σ → σ → Prop) (es : List γ) (x : Program ε σ α) : Prop :=
  ∀ s, ∃ done, R done s (runOn x s).2 ∧ done <+: es ∧ ∀ a, (runOn x s).1 = .ok a → done = es

section Entries

variable {γ : Type} {R : List γ → σ → σ → Prop} {e : γ} {es xs ys : List γ}

theorem enters_pure (h : Composes R) (a : α) : Enters R [] (pure a : Program ε σ α) :=
  fun s => ⟨[], h.nil s, List.nil_prefix, fun _ _ => rfl⟩

theorem enters_get (h : Composes R) : Enters R [] (get : Program ε σ σ) :=
  fun s => ⟨[], h.nil s, List.nil_prefix, fun _ _ => rfl⟩

theorem enters_throw (h : Composes R) (c : ε) : Enters R es (throw c : Program ε σ α) := by
  refine fun s => ⟨[], h.nil s, List.nil_prefix, fun a hok => ?_⟩
  rw [runOn_throw] at hok
  cases hok

theorem enters_modify {f : σ → σ} (hf : ∀ s, R es s (f s)) :
    Enters R es (modify f : Program ε σ Unit) :=
  fun s => ⟨es, hf s, List.prefix_refl es, fun _ _ => rfl⟩

/-- **One part after the other**; what follows may rely on the result before it. -/
theorem enters_bind (h : Composes R) {x : Program ε σ α} {k : α → Program ε σ β}
    (hx : Enters R xs x) (hk : ∀ a s t, runOn x s = (.ok a, t) → Enters R ys (k a)) :
    Enters R (xs ++ ys) (x >>= k) := by
  intro s
  obtain ⟨done, hdone, hfront, hall⟩ := hx s
  rcases hrun : runOn x s with ⟨c | a, t⟩ <;> rw [hrun] at hdone hall
  · -- the first part has raised: what follows makes no entry
    rw [runOn_bind_error hrun]
    refine ⟨done, hdone, hfront.trans (List.prefix_append xs ys), fun b hok => ?_⟩
    cases hok
  · obtain rfl := hall a rfl
    obtain ⟨more, hmore, hrest, hmoreAll⟩ := hk a s t hrun t
    rw [runOn_bind_ok hrun]
    refine ⟨done ++ more, h.append hdone hmore, ?_, fun b hok => ?_⟩
    · exact (List.prefix_append_right_inj done).mpr hrest
    · rw [hmoreAll b hok]

/-- A part that makes one entry comes first. -/
theorem enters_cons (h : Composes R) {x : Program ε σ α} {k : α → Program ε σ β}
    (hx : Enters R [e] x) (hk : ∀ a, Enters R es (k a)) : Enters R (e :: es) (x >>= k) :=
  enters_bind h hx fun a _ _ _ => hk a

/-- A part that makes none. -/
theorem enters_quiet (h : Composes R) {x : Program ε σ α} {k : α → Program ε σ β}
    (hx : Enters R [] x) (hk : ∀ a, Enters R es (k a)) : Enters R es (x >>= k) :=
  enters_bind h hx fun a _ _ _ => hk a

end Entries

end Raising
