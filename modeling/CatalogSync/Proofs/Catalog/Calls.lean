import CatalogSync.Catalog.Client

namespace CatalogSync.Client

variable {σ τ ρ : Type}

-- The failure of a call that the client does not carry out.
def failure? (client : Client σ) (call : Call) (state : σ) : Option Failure :=
  match (client.answer call state).1 with
  | .ok _ => none
  | .error failure => some failure

-- The state after calls that are made one after the other, whatever the answers are.
def after (client : Client σ) : List Call → σ → σ
  | [], state => state
  | call :: calls, state => client.after calls (client.answer call state).2

-- Every call succeeds in the state that the calls before it have left.
def Accepts (client : Client σ) : List Call → σ → Prop
  | [], _ => True
  | call :: calls, state =>
    client.failure? call state = none ∧ client.Accepts calls (client.answer call state).2

instance decidableAccepts (client : Client σ) :
    (calls : List Call) → (state : σ) → Decidable (client.Accepts calls state)
  | [], _ => isTrue trivial
  | call :: calls, state =>
    have := client.decidableAccepts calls (client.answer call state).2
    inferInstanceAs (Decidable (client.failure? call state = none ∧ _))

-- What `view` shows of the state stays as it is when a call fails.
def KeepsOnFailure (client : Client σ) (view : σ → ρ) : Prop :=
  ∀ call state failure, client.failure? call state = some failure →
    view (client.answer call state).2 = view state

theorem failure?_eq_none_iff (client : Client σ) (call : Call) (state : σ) :
    client.failure? call state = none ↔ ∃ reply, (client.answer call state).1 = .ok reply := by
  unfold failure?
  cases (client.answer call state).1 <;> simp

theorem failure?_eq_some_iff (client : Client σ) (call : Call) (state : σ) (failure : Failure) :
    client.failure? call state = some failure ↔ (client.answer call state).1 = .error failure := by
  unfold failure?
  cases (client.answer call state).1 <;> simp

@[simp] theorem after_singleton (client : Client σ) (call : Call) (state : σ) :
    client.after [call] state = (client.answer call state).2 := rfl

theorem after_append (client : Client σ) (first second : List Call) (state : σ) :
    client.after (first ++ second) state = client.after second (client.after first state) := by
  induction first generalizing state with
  | nil => rfl
  | cons call calls ih => exact ih _

theorem accepts_append (client : Client σ) (first second : List Call) (state : σ) :
    client.Accepts (first ++ second) state ↔
      client.Accepts first state ∧ client.Accepts second (client.after first state) := by
  induction first generalizing state with
  | nil => simp [Accepts, after]
  | cons call calls ih => simp only [List.cons_append, Accepts, after, ih, and_assoc]

-- A client carries out all calls of a list, or there is a first one that fails.
theorem accepts_or_fails (client : Client σ) (calls : List Call) (state : σ) :
    client.Accepts calls state ∨
      ∃ done call rest failure, calls = done ++ call :: rest ∧ client.Accepts done state ∧
        client.failure? call (client.after done state) = some failure := by
  induction calls generalizing state with
  | nil => exact .inl trivial
  | cons call calls ih =>
      cases hf : client.failure? call state with
      | some failure => exact .inr ⟨[], call, calls, failure, rfl, trivial, hf⟩
      | none =>
          rcases ih (client.answer call state).2 with ha | ⟨done, next, rest, failure, rfl, ha, hn⟩
          · exact .inl ⟨hf, ha⟩
          · exact .inr ⟨call :: done, next, rest, failure, rfl, ⟨hf, ha⟩, hn⟩

theorem failure?_of_accepts {client : Client σ} {first rest : List Call} {call : Call} {state : σ}
    (haccepts : client.Accepts (first ++ call :: rest) state) :
    client.failure? call (client.after first state) = none :=
  ((client.accepts_append _ _ _).mp haccepts).2.1

-- When all calls up to a last one are carried out, none but the last one can fail.
theorem eq_last_of_failure? {client : Client σ} {done first rest : List Call} {last call : Call}
    {failure : Failure} {state : σ} (haccepts : client.Accepts done state)
    (hsplit : done ++ [last] = first ++ call :: rest)
    (hfails : client.failure? call (client.after first state) = some failure) :
    rest = [] ∧ first = done ∧ call = last := by
  rcases List.eq_nil_or_concat rest with rfl | ⟨more, final, rfl⟩
  · obtain ⟨hdone, hlast⟩ := List.append_inj' hsplit rfl
    exact ⟨rfl, hdone.symm, (List.singleton_inj.mp hlast).symm⟩
  · have hends : done ++ [last] = (first ++ call :: more) ++ [final] := by simpa using hsplit
    obtain ⟨rfl, -⟩ := List.append_inj' hends rfl
    cases (failure?_of_accepts haccepts).symm.trans hfails

section Interrupted

variable (client : Client σ) (interruption : Interruption τ)

-- A call that succeeds in spite of interruptions has been carried out by the client itself.
theorem interrupted_ok (call : Call) (state : σ × τ) (reply : call.Reply)
    (h : ((client.interrupted interruption).answer call state).1 = .ok reply) :
    client.answer call state.1 =
      (.ok reply, ((client.interrupted interruption).answer call state).2.1) := by
  simp only [interrupted] at h ⊢
  split at h
  · cases h
  · exact Prod.ext h rfl

-- A call that is not struck is answered by the client itself.
theorem interrupted_of_strike_none (call : Call) (state : σ × τ)
    (h : (interruption.strike call state.2).1 = none) :
    ((client.interrupted interruption).answer call state).1 = (client.answer call state.1).1 := by
  simp only [interrupted]
  split
  · next heq =>
    rw [heq] at h
    cases h
  · rfl

theorem interrupted_keepsOnFailure (h : client.KeepsOnFailure id) :
    (client.interrupted interruption).KeepsOnFailure Prod.fst := by
  intro call state failure hf
  rw [failure?_eq_some_iff] at hf
  simp only [interrupted] at hf ⊢
  split at hf
  · rfl
  · exact h call state.1 failure ((failure?_eq_some_iff client call state.1 failure).mpr hf)

end Interrupted

end CatalogSync.Client
