import GridOperator.Script

/-!
# What scripts may come to

An `Environment` is a world whose answers are not determined: it relates a call
and the world before it to the answers that may be given and the worlds that may
be left. `Script.Exec` runs a script through it, so that what holds of every
execution holds for every pattern of answers and failures.
-/

namespace GridOperator

namespace Script

variable {I J : Interface} {α β σ τ : Type}

/-- How calls may be answered in a world, and what may become of it. -/
abbrev Environment (I : Interface) (σ : Type) := (c : I.Call) → σ → I.Answer c → σ → Prop

/-- Whether a script may end with a result, from one world to another. -/
def Exec (env : Environment I σ) : Script I α → σ → α → σ → Prop
  | done a, w, r, w' => r = a ∧ w' = w
  | ask c next, w, r, w' => ∃ answer v, env c w answer v ∧ (next answer).Exec env v r w'

section

variable {env : Environment I σ} {w w' : σ}

theorem exec_call {c : I.Call} {r : I.Answer c} : (call c).Exec env w r w' ↔ env c w r w' := by
  constructor
  · rintro ⟨answer, v, h, rfl, rfl⟩
    exact h
  · intro h
    exact ⟨r, w', h, rfl, rfl⟩

theorem exec_bind {s : Script I α} {f : α → Script I β} {r : β} :
    (s >>= f).Exec env w r w' ↔ ∃ a v, s.Exec env w a v ∧ (f a).Exec env v r w' := by
  show (s.bind f).Exec env w r w' ↔ _
  induction s generalizing w with
  | done a =>
    constructor
    · intro h
      exact ⟨a, w, ⟨rfl, rfl⟩, h⟩
    · rintro ⟨_, _, ⟨rfl, rfl⟩, h⟩
      exact h
  | ask c next ih =>
    constructor
    · rintro ⟨answer, v, hc, h⟩
      obtain ⟨a, u, hs, hf⟩ := (ih answer).1 h
      exact ⟨a, u, ⟨answer, v, hc, hs⟩, hf⟩
    · rintro ⟨a, u, ⟨answer, v, hc, hs⟩, hf⟩
      exact ⟨answer, v, hc, (ih answer).2 ⟨a, u, hs, hf⟩⟩

/-- A deterministic world is one of the ways an environment may go that admits its answers. -/
theorem exec_of_run {h : Handler I σ} (admits : ∀ c w, env c w (h c w).1 (h c w).2)
    (s : Script I α) (w : σ) : s.Exec env w (s.run h w).1 (s.run h w).2 := by
  induction s generalizing w with
  | done a => exact ⟨rfl, rfl⟩
  | ask c next ih => exact ⟨_, _, admits c w, ih _ _⟩

/-- Where calls are answered by a handler, there is one way for a script to go. -/
theorem Exec.eq_run {h : Handler I σ} {s : Script I α} {r : α}
    (hexec : s.Exec (fun c w answer w' => (answer, w') = h c w) w r w') : (r, w') = s.run h w := by
  induction s generalizing w with
  | done a =>
    obtain ⟨rfl, rfl⟩ := hexec
    rfl
  | ask c next ih =>
    obtain ⟨answer, v, hc, hexec⟩ := hexec
    rw [ih answer hexec]
    show (next answer).run h v = (next (h c w).1).run h (h c w).2
    rw [← hc]

/-- What every answer preserves, a script preserves. -/
theorem Exec.preserves {P : σ → Prop} (step : ∀ c w a w', env c w a w' → P w → P w')
    {s : Script I α} {r : α} (h : s.Exec env w r w') (hw : P w) : P w' := by
  induction s generalizing w with
  | done a =>
    obtain ⟨-, rfl⟩ := h
    exact hw
  | ask c next ih =>
    obtain ⟨answer, v, hc, h⟩ := h
    exact ih answer h (step c w answer v hc hw)

/-- A script goes the same way in an environment that admits the same answers as long as `P` holds,
which is kept. -/
theorem Exec.mono {env' : Environment I σ} {P : σ → Prop}
    (step : ∀ c w a w', P w → env c w a w' → env' c w a w' ∧ P w') {s : Script I α} {r : α}
    (h : s.Exec env w r w') (hw : P w) : s.Exec env' w r w' ∧ P w' := by
  induction s generalizing w with
  | done a =>
    obtain ⟨rfl, rfl⟩ := h
    exact ⟨⟨rfl, rfl⟩, hw⟩
  | ask c next ih =>
    obtain ⟨answer, v, hc, h⟩ := h
    obtain ⟨hc, hv⟩ := step c w answer v hw hc
    obtain ⟨h, hw'⟩ := ih answer h hv
    exact ⟨⟨answer, v, hc, h⟩, hw'⟩

/-- A script goes the same way in a world that follows the steps of another one. -/
theorem Exec.map {part : Environment I τ} (f : σ → τ)
    (step : ∀ c w a w', env c w a w' → part c (f w) a (f w')) {s : Script I α} {r : α}
    (h : s.Exec env w r w') : s.Exec part (f w) r (f w') := by
  induction s generalizing w with
  | done a =>
    obtain ⟨rfl, rfl⟩ := h
    exact ⟨rfl, rfl⟩
  | ask c next ih =>
    obtain ⟨answer, v, hc, h⟩ := h
    exact ⟨answer, f v, step c w answer v hc, ih answer h⟩

/-- A script whose calls only concern one part of the world, which `put` sets. -/
theorem Exec.within {part : Environment I τ} (put : τ → σ)
    (step : ∀ c t a w', env c (put t) a w' → ∃ t', part c t a t' ∧ w' = put t')
    {s : Script I α} {t : τ} {r : α} (h : s.Exec env (put t) r w') :
    ∃ t', s.Exec part t r t' ∧ w' = put t' := by
  induction s generalizing t with
  | done a =>
    obtain ⟨rfl, rfl⟩ := h
    exact ⟨t, ⟨rfl, rfl⟩, rfl⟩
  | ask c next ih =>
    obtain ⟨answer, v, hc, h⟩ := h
    obtain ⟨u, hu, rfl⟩ := step c t answer v hc
    obtain ⟨t', ht, hw⟩ := ih answer h
    exact ⟨t', ⟨answer, u, hu, ht⟩, hw⟩

end

/-! ## Calls through another interface -/

/-- What an environment means for the calls that are made through it. -/
def Environment.through (env : Environment J σ) (e : Embedding I J) : Environment I σ :=
  fun c w a w' => ∃ b, env (e.call c) w b w' ∧ e.answer c b = a

theorem exec_embed {env : Environment J σ} {e : Embedding I J} {s : Script I α} {r : α}
    {w w' : σ} : (s.embed e).Exec env w r w' ↔ s.Exec (env.through e) w r w' := by
  induction s generalizing w with
  | done a => exact Iff.rfl
  | ask c next ih =>
    constructor
    · rintro ⟨b, v, hb, h⟩
      exact ⟨e.answer c b, v, ⟨b, hb, rfl⟩, (ih _).1 h⟩
    · rintro ⟨_, v, ⟨b, hb, rfl⟩, h⟩
      exact ⟨b, v, hb, (ih _).2 h⟩

/-! ## Parts of a world -/

/-- A part of a world that is all that the calls through an embedding concern. -/
structure Part (env : Environment J σ) (e : Embedding I J) (own : Environment I τ) where
  get : σ → τ
  put : σ → τ → σ
  get_put (w : σ) (t : τ) : get (put w t) = t := by intros; rfl
  put_put (w : σ) (t u : τ) : put (put w t) u = put w u := by intros; rfl
  put_get (w : σ) : put w (get w) = w := by intros; rfl
  env_iff (c : I.Call) (w : σ) (b : J.Answer (e.call c)) (w' : σ) : env (e.call c) w b w' ↔
    ∃ t, own c (get w) (e.answer c b) t ∧ w' = put w t := by intros; exact Iff.rfl
  exists_answer (c : I.Call) (a : I.Answer c) : ∃ b, e.answer c b = a := by
    intros; exact ⟨_, rfl⟩

/-- What may come of a script in a part of the world is what may come of it in the world. -/
theorem Part.exec_iff {env : Environment J σ} {e : Embedding I J} {own : Environment I τ}
    (part : Part env e own) {s : Script I α} {r : α} {w w' : σ} :
    (s.embed e).Exec env w r w' ↔ ∃ t, s.Exec own (part.get w) r t ∧ w' = part.put w t := by
  rw [exec_embed]
  constructor
  · intro h
    rw [← part.put_get w] at h
    refine h.within (part.put w) ?_
    rintro c t a v ⟨b, hc, rfl⟩
    obtain ⟨u, hu, rfl⟩ := (part.env_iff c _ b v).1 hc
    rw [part.get_put] at hu
    exact ⟨u, hu, part.put_put w t u⟩
  · rintro ⟨t, h, rfl⟩
    have hput : s.Exec (env.through e) (part.put w (part.get w)) r (part.put w t) := by
      refine h.map (part.put w) fun c t a u hc => ?_
      obtain ⟨b, rfl⟩ := part.exists_answer c a
      refine ⟨b, (part.env_iff c _ b _).2 ⟨u, ?_, (part.put_put w t u).symm⟩, rfl⟩
      rwa [part.get_put]
    rwa [part.put_get] at hput

end Script

/-! ## Passes -/

namespace Pass

open Script

variable {I J : Interface} {α β σ : Type} {env : Environment I σ} {w w' : σ}

def Exec (env : Environment I σ) (p : Pass I α) (w : σ) (r : Except Error α) (w' : σ) : Prop :=
  Script.Exec env p.run w r w'

theorem exec_pure {a : α} {r : Except Error α} :
    Exec env (pure a) w r w' ↔ r = .ok a ∧ w' = w := Iff.rfl

theorem exec_ofExcept {a r : Except Error α} :
    Exec env (ofExcept a) w r w' ↔ r = a ∧ w' = w := Iff.rfl

theorem exec_lift {s : Script I α} {r : Except Error α} :
    Exec env (ExceptT.lift s) w r w' ↔ ∃ a, r = .ok a ∧ s.Exec env w a w' := by
  unfold Exec
  rw [show (ExceptT.lift s : Pass I α).run = s >>= fun a => pure (.ok a) from
    (bind_pure_comp _ _).symm, exec_bind]
  constructor
  · rintro ⟨a, v, h, rfl, rfl⟩
    exact ⟨a, rfl, h⟩
  · rintro ⟨a, rfl, h⟩
    exact ⟨a, w', h, rfl, rfl⟩

/-- The second part of a pass starts where the first one has succeeded. -/
theorem exec_bind {p : Pass I α} {f : α → Pass I β} {r : Except Error β} :
    Exec env (p >>= f) w r w' ↔ ∃ a v, Exec env p w a v ∧
      match a with
      | .ok a => Exec env (f a) v r w'
      | .error e => r = .error e ∧ w' = v := by
  unfold Exec
  rw [ExceptT.run_bind, Script.exec_bind]
  constructor
  · rintro ⟨a | a, v, hp, hf⟩
    · exact ⟨.error a, v, hp, hf⟩
    · exact ⟨.ok a, v, hp, hf⟩
  · rintro ⟨a | a, v, hp, hf⟩
    · exact ⟨.error a, v, hp, hf⟩
    · exact ⟨.ok a, v, hp, hf⟩

/-- A pass fails in its first part, or its second part starts where the first one has succeeded. -/
theorem exec_bind_cases {p : Pass I α} {f : α → Pass I β} {r : Except Error β}
    (h : Exec env (p >>= f) w r w') :
    (∃ e, r = .error e ∧ Exec env p w (.error e) w') ∨
      ∃ a v, Exec env p w (.ok a) v ∧ Exec env (f a) v r w' := by
  obtain ⟨e | a, v, hp, h⟩ := exec_bind.1 h
  · obtain ⟨rfl, rfl⟩ := h
    exact .inl ⟨e, rfl, hp⟩
  · exact .inr ⟨a, v, hp, h⟩

theorem exec_bind_ok {p : Pass I α} {f : α → Pass I β} {b : β}
    (h : Exec env (p >>= f) w (.ok b) w') :
    ∃ a v, Exec env p w (.ok a) v ∧ Exec env (f a) v (.ok b) w' := by
  rcases exec_bind_cases h with ⟨e, he, -⟩ | h
  · cases he
  · exact h

theorem exec_ok_bind {a : α} {f : α → Pass I β} {r : Except Error β} :
    Exec env (ofExcept (.ok a) >>= f) w r w' ↔ Exec env (f a) w r w' := Iff.rfl

theorem exec_ofExcept_bind {a : Except Error α} {f : α → Pass I β} {r : Except Error β}
    (h : Exec env (ofExcept a >>= f) w r w') :
    (w' = w ∧ ∃ e, r = .error e) ∨ ∃ b, a = .ok b ∧ Exec env (f b) w r w' := by
  obtain ⟨result, v, ha, h⟩ := exec_bind.1 h
  obtain ⟨rfl, rfl⟩ := exec_ofExcept.1 ha
  rcases result with e | b
  · exact .inl ⟨h.2, e, h.1⟩
  · exact .inr ⟨b, rfl, h⟩

/-- A result that is of no account leaves only whether there is one. -/
theorem exec_bind_pure {p : Pass I α} {b : β} {r : Except Error β} :
    Exec env (p >>= fun _ => pure b) w r w' ↔
      ∃ a, Exec env p w a w' ∧ r = a.map fun _ => b := by
  rw [exec_bind]
  constructor
  · rintro ⟨e | a, v, hp, h⟩
    · obtain ⟨rfl, rfl⟩ := h
      exact ⟨_, hp, rfl⟩
    · obtain ⟨rfl, rfl⟩ := exec_pure.1 h
      exact ⟨_, hp, rfl⟩
  · rintro ⟨e | a, hp, rfl⟩
    · exact ⟨_, w', hp, rfl, rfl⟩
    · exact ⟨_, w', hp, exec_pure.2 ⟨rfl, rfl⟩⟩

theorem exec_discard {p : Pass I α} {b : β} {r : Except Error β}
    (h : Exec env (p >>= fun _ => pure b) w r w') :
    ∃ a, Exec env p w a w' ∧ ∀ x, r = .ok x → ∃ y, a = .ok y := by
  obtain ⟨e | a, hp, rfl⟩ := exec_bind_pure.1 h
  · exact ⟨_, hp, nofun⟩
  · exact ⟨_, hp, fun _ _ => ⟨a, rfl⟩⟩

theorem exec_outcome {p : Pass I α} {r : Except Error (Except Error α)} :
    Exec env p.outcome w r w' ↔ ∃ a, r = .ok a ∧ Exec env p w a w' := by
  unfold Exec outcome
  rw [ExceptT.run_mk, Script.exec_bind]
  constructor
  · rintro ⟨a, v, h, rfl, rfl⟩
    exact ⟨a, rfl, h⟩
  · rintro ⟨a, rfl, h⟩
    exact ⟨a, w', h, rfl, rfl⟩

theorem exec_embed {env : Environment J σ} {e : Embedding I J} {p : Pass I α}
    {r : Except Error α} : Exec env (p.embed e) w r w' ↔ Exec (env.through e) p w r w' :=
  Script.exec_embed

theorem exec_part {τ : Type} {env : Environment J σ} {e : Embedding I J} {own : Environment I τ}
    (part : Part env e own) {p : Pass I α} {r : Except Error α} :
    Exec env (p.embed e) w r w' ↔ ∃ t, Exec own p (part.get w) r t ∧ w' = part.put w t :=
  part.exec_iff

theorem Exec.preserves {P : σ → Prop} (step : ∀ c w a w', env c w a w' → P w → P w')
    {p : Pass I α} {r : Except Error α} (h : Exec env p w r w') (hw : P w) : P w' :=
  Script.Exec.preserves step h hw

theorem Exec.mono {env' : Environment I σ} {P : σ → Prop}
    (step : ∀ c w a w', P w → env c w a w' → env' c w a w' ∧ P w') {p : Pass I α}
    {r : Except Error α} (h : Exec env p w r w') (hw : P w) : Exec env' p w r w' ∧ P w' :=
  Script.Exec.mono step h hw

theorem Exec.map {τ : Type} {part : Environment I τ} (f : σ → τ)
    (step : ∀ c w a w', env c w a w' → part c (f w) a (f w')) {p : Pass I α} {r : Except Error α}
    (h : Exec env p w r w') : Exec part p (f w) r (f w') :=
  Script.Exec.map f step h

/-! ## What passes keep -/

/-- Whether no execution of a pass changes what `view` shows of the world. -/
def Keeps {τ : Type} (env : Environment I σ) (view : σ → τ) (p : Pass I α) : Prop :=
  ∀ ⦃w : σ⦄ ⦃r : Except Error α⦄ ⦃w' : σ⦄, Exec env p w r w' → view w' = view w

variable {τ : Type} {view : σ → τ}

theorem keeps_pure (a : α) : Keeps env view (pure a) := fun _ _ _ h => by
  rw [(exec_pure.1 h).2]

theorem keeps_bind {p : Pass I α} {f : α → Pass I β} (hp : Keeps env view p)
    (hf : ∀ a, Keeps env view (f a)) : Keeps env view (p >>= f) := by
  intro w r w' h
  obtain ⟨a, v, ha, h⟩ := exec_bind.1 h
  rw [← hp ha]
  cases a with
  | ok a => exact hf a h
  | error e => rw [h.2]

/-- A pass that makes a single call keeps what the call keeps. -/
theorem keeps_lift {c : I.Call} (hc : ∀ w a w', env c w a w' → view w' = view w) :
    Keeps env view (ExceptT.lift (Script.call c)) := by
  intro w r w' h
  obtain ⟨a, -, h⟩ := exec_lift.1 h
  exact hc w a w' (Script.exec_call.1 h)

end Pass

end GridOperator
