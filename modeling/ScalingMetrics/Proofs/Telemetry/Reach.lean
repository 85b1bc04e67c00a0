import Mathlib.Data.List.Basic
import ScalingMetrics.Telemetry.Run

/-!
# States reached by runs

A state is reached by a list of actions when the last action leads to it from a state reached by the
others. Invariants are proved along this relation, one action at a time.
-/

namespace ScalingMetrics

namespace Traced

variable {σ α β : Type} {step? : σ → α → Option (Traced σ)} {s t u : σ} {as bs : List α}

/-- The states reached by actions, in order. -/
inductive Reaches (step? : σ → α → Option (Traced σ)) (s : σ) : List α → σ → Prop
  | refl : Reaches step? s [] s
  | step {as t a next} (before : Reaches step? s as t) (h : step? t a = some next) :
      Reaches step? s (as ++ [a]) next.value

theorem Reaches.trans (first : Reaches step? s as t) (second : Reaches step? t bs u) :
    Reaches step? s (as ++ bs) u := by
  induction second with
  | refl => simpa using first
  | step _ h ih =>
      rw [← List.append_assoc]
      exact ih.step h

theorem Reaches.single {a : α} {next : Traced σ} (h : step? s a = some next) :
    Reaches step? s [a] next.value :=
  Reaches.refl.step h

theorem Reaches.eq_of_nil (h : Reaches step? s [] t) : s = t := by
  generalize hl : ([] : List α) = l at h
  cases h with
  | refl => rfl
  | step _ _ => simp at hl

/-- The first action of a run leads to where the others start. -/
theorem Reaches.cons_inv {a : α} (h : Reaches step? s (a :: as) t) :
    ∃ next, step? s a = some next ∧ Reaches step? next.value as t := by
  generalize hl : a :: as = l at h
  induction h generalizing as with
  | refl => cases hl
  | @step bs t b next before h ih =>
      cases bs with
      | nil =>
          obtain ⟨rfl, rfl⟩ : a = b ∧ as = [] := by simpa using hl
          obtain rfl := Reaches.eq_of_nil before
          exact ⟨next, h, Reaches.refl⟩
      | cons c cs =>
          obtain ⟨rfl, rfl⟩ : a = c ∧ as = cs ++ [b] := by simpa using hl
          obtain ⟨first, hf, tail⟩ := ih rfl
          exact ⟨first, hf, tail.step h⟩

/-- A run splits at every point between its actions. -/
theorem Reaches.split (h : Reaches step? s (as ++ bs) u) :
    ∃ t, Reaches step? s as t ∧ Reaches step? t bs u := by
  induction as generalizing s with
  | nil => exact ⟨s, Reaches.refl, h⟩
  | cons a as ih =>
      obtain ⟨next, hn, rest⟩ := Reaches.cons_inv h
      obtain ⟨t, first, second⟩ := ih rest
      exact ⟨t, (Reaches.single hn).trans first, second⟩

/-- Actions lead to one state only. -/
theorem Reaches.unique (first : Reaches step? s as t) (second : Reaches step? s as u) : t = u := by
  induction first generalizing u with
  | refl => exact Reaches.eq_of_nil second
  | @step as t a next _ h ih =>
      obtain ⟨t', before, last⟩ := Reaches.split second
      obtain ⟨next', h', rest⟩ := Reaches.cons_inv last
      obtain rfl := ih before
      obtain rfl : next = next' := Option.some.inj (h.symm.trans h')
      exact Reaches.eq_of_nil rest

/-- A possible run is a possible action and a possible run from where it leads. -/
theorem run?_cons_eq_some {a : α} {last : Traced σ} (h : run? step? s (a :: as) = some last) :
    ∃ next tail, step? s a = some next ∧ run? step? next.value as = some tail ∧
      (do let _ ← next; tail) = last := by
  cases hn : step? s a with
  | none => simp [run?, hn] at h
  | some next =>
      cases ht : run? step? next.value as with
      | none => simp [run?, hn, ht] at h
      | some tail => exact ⟨next, tail, rfl, ht, by simpa [run?, hn, ht] using h⟩

theorem map_value_run?_cons {a : α} (f : σ → β) :
    (run? step? s (a :: as)).map (fun last => f last.value) =
      (step? s a).bind fun next => (run? step? next.value as).map fun last => f last.value := by
  cases hn : step? s a with
  | none => simp [run?, hn]
  | some next => cases ht : run? step? next.value as <;> simp [run?, hn, ht]

/-- A possible run reaches the state that it returns. -/
theorem reaches_of_run? {last : Traced σ} (h : run? step? s as = some last) :
    Reaches step? s as last.value := by
  induction as generalizing s last with
  | nil =>
      obtain rfl : pure s = last := Option.some.inj h
      exact Reaches.refl
  | cons a rest ih =>
      obtain ⟨next, tail, hn, ht, rfl⟩ := run?_cons_eq_some h
      have later : Reaches step? next.value rest tail.value := ih ht
      exact (Reaches.single hn).trans later

/-- What is reached is returned by a possible run. -/
theorem Reaches.exists_run? (h : Reaches step? s as t) :
    ∃ last, run? step? s as = some last ∧ last.value = t := by
  induction as generalizing s with
  | nil =>
      obtain rfl := h.eq_of_nil
      exact ⟨pure s, rfl, rfl⟩
  | cons a as ih =>
      obtain ⟨next, hn, rest⟩ := h.cons_inv
      obtain ⟨tail, ht, htail⟩ := ih rest
      exact ⟨do let _ ← next; tail, by simp [run?, hn, ht], htail⟩

/-- What the actions of a run yield, in order. -/
def gather (step? : σ → α → Option (Traced σ)) (yields : σ → α → List β) (s : σ) :
    List α → List β
  | [] => []
  | a :: rest =>
      match step? s a with
      | none => []
      | some next => yields s a ++ gather step? yields next.value rest

@[simp] theorem gather_nil (yields : σ → α → List β) : gather step? yields s [] = [] := rfl

theorem gather_single {a : α} {next : Traced σ} (yields : σ → α → List β)
    (h : step? s a = some next) : gather step? yields s [a] = yields s a := by
  simp [gather, h]

theorem gather_append (yields : σ → α → List β) (h : Reaches step? s as t) :
    gather step? yields s (as ++ bs) =
      gather step? yields s as ++ gather step? yields t bs := by
  induction as generalizing s with
  | nil =>
      obtain rfl := Reaches.unique Reaches.refl h
      rfl
  | cons a as ih =>
      obtain ⟨next, hn, rest⟩ := Reaches.cons_inv h
      simp only [gather, List.cons_append, hn, ih rest, List.append_assoc]

/-- Everything that a run yields is yielded by one of its actions. -/
theorem exists_of_gather_eq {yields : σ → α → List β} {l l' : List β} {x : β}
    (h : gather step? yields s as = l ++ x :: l') :
    ∃ before a after, ∃ (t : σ) (next : Traced σ), ∃ m m', as = before ++ a :: after ∧
      Reaches step? s before t ∧ step? t a = some next ∧ yields t a = m ++ x :: m' ∧
      l' = m' ++ gather step? yields next.value after := by
  induction as generalizing s l with
  | nil => simp [gather] at h
  | cons a rest ih =>
      cases hn : step? s a with
      | none => simp [gather, hn] at h
      | some next =>
          simp only [gather, hn] at h
          rcases List.append_eq_append_iff.mp h with ⟨k, rfl, hrest⟩ | ⟨k, hfirst, hk⟩
          · obtain ⟨before, b, after, t, next', m, m', rfl, reached, hb, hyields, rfl⟩ := ih hrest
            exact ⟨a :: before, b, after, t, next', m, m', rfl,
              (Reaches.single hn).trans reached, hb, hyields, rfl⟩
          · cases k with
            | nil =>
                obtain ⟨before, b, after, t, next', m, m', rfl, reached, hb, hyields, rfl⟩ :=
                  ih (l := []) hk.symm
                exact ⟨a :: before, b, after, t, next', m, m', rfl,
                  (Reaches.single hn).trans reached, hb, hyields, rfl⟩
            | cons y k =>
                obtain ⟨rfl, rfl⟩ := List.cons.inj hk
                exact ⟨[], a, rest, s, next, l, k, rfl, .refl, hn, hfirst, rfl⟩

end Traced

end ScalingMetrics
