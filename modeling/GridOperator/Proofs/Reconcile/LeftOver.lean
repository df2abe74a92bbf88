import GridOperator.Proofs.Reconcile.Placement

/-!
# Services that passes leave behind

A pass makes services before it notes how many there are. If it ends in between,
the note does not tell of the services that it has made beyond the earlier ones,
and no later pass removes those. `LeftOver` reads off the passes so far which
services these are.
-/

namespace GridOperator

open Kubernetes Pass

namespace PassRecord

/-- How many services the note tells of after passes, the latest one first. -/
def noteOf : List PassRecord → Nat
  | [] => 0
  | p :: before => if p.noted then p.count else noteOf before

/-- Whether the latest pass that made the service of a member ended before it came to the note, and
the note there was does not tell of that service. -/
def LeftOver (i : Nat) : List PassRecord → Prop
  | [] => False
  | p :: before => if i < p.made then p.noted = false ∧ noteOf before ≤ i else LeftOver i before

end PassRecord

namespace ClusterWorld

open PassRecord

variable {name : String} {w v w' : ClusterWorld} {c : Cluster} {settings : Settings}
  {p : PassRecord} {history : List PassRecord}

/-! ## One pass -/

theorem has_congr (h : w'.services = w.services) (i : Nat) : w'.Has name i ↔ w.Has name i := by
  unfold Has
  rw [h]

theorem WellFormed.congr (h : w.WellFormed name) (hsets : w'.statefulSets = w.statefulSets) :
    w'.WellFormed name := by
  unfold WellFormed
  rw [hsets]
  exact h

theorem Brought.unnoted (h : Brought name p w v) (hservices : w'.services = v.services)
    (hnote : w'.note name = v.note name) : Brought name p w w' where
  made_le := h.made_le
  stale := h.stale
  has i := (has_congr hservices i).trans (h.has i)
  note_eq := hnote.trans h.note_eq
  complete := h.complete

theorem Brought.noted (h : Brought name p w v)
    (hdone : p.made = p.count ∧ ∀ i, p.count ≤ i → i < w.note name → i ∈ p.removed)
    (hservices : w'.services = v.services) (hnote : w'.note name = p.count) :
    Brought name { p with noted := true } w w' where
  made_le := h.made_le
  stale := h.stale
  has i := (has_congr hservices i).trans (h.has i)
  note_eq := hnote
  complete _ := hdone

/-- Whether a pass may come past the stateful set and end with `w'`. -/
def Completes (c : Cluster) (settings : Settings) (w w' : ClusterWorld) : Prop :=
  c.metadata.isDeleted = false ∧ ∃ perPod u v x r,
    Exec unreliable (c.prepare settings) w (.ok ()) u ∧
    Exec unreliable c.applyServices u (.ok perPod) v ∧
    Exec unreliable (c.place settings perPod) v (.ok true) x ∧
    Exec unreliable (c.settle perPod) x r w'

theorem Completes.exec_reconcile (h : Completes c settings w w') :
    ∃ r, Exec unreliable (c.reconcile settings) w r w' := by
  obtain ⟨hlive, perPod, u, v, x, r, hprepare, hservices, hplace, hsettle⟩ := h
  refine ⟨r, ?_⟩
  rw [Cluster.reconcile_eq hlive]
  exact exec_bind.2 ⟨_, u, hprepare, exec_bind.2 ⟨_, v, hservices,
    exec_bind.2 ⟨_, x, hplace, hsettle⟩⟩⟩

theorem Completes.exists_brought (h : Completes c settings w w')
    (hname : c.metadata.name = some c.name) (hw : w.WellFormed c.name) :
    ∃ p : PassRecord, p.count = c.perPodCount ∧ p.noted ∧ Brought c.name p w w' := by
  obtain ⟨-, perPod, u, v, x, r, hprepare, hservices, hplace, hsettle⟩ := h
  obtain rfl := still_prepare c settings hprepare
  obtain rfl := still_settle c perPod hsettle
  obtain ⟨hsets, p, hcount, hbrought, hdone⟩ := exec_applyServices hname hservices
  obtain ⟨hsame, -, ⟨-, hfail⟩ | hnote⟩ := exec_place hname (hw.congr hsets) hplace
  · exact absurd rfl hfail
  · exact ⟨{ p with noted := true }, hcount, rfl,
      hbrought.noted (hdone _ rfl) hsame (hnote.trans hcount.symm)⟩

/-- Every pass makes the services of the first members, removes some that the note tells of, and
may come to the note. -/
theorem exists_brought (hname : c.metadata.name = some c.name) (hw : w.WellFormed c.name)
    {r : Except Error Next} (h : Exec unreliable (c.reconcile settings) w r w') :
    w'.WellFormed c.name ∧ ∃ p : PassRecord, p.count = c.perPodCount ∧ Brought c.name p w w' := by
  have hserved {perPod : List (Option Service)} {u v x : ClusterWorld} {placed : Except Error Bool}
      (hprepare : Exec unreliable (c.prepare settings) w (.ok ()) u)
      (hservices : Exec unreliable c.applyServices u (.ok perPod) v)
      (hplace : Exec unreliable (c.place settings perPod) v placed x) :
      x.WellFormed c.name ∧ ∃ p : PassRecord, p.count = c.perPodCount ∧ Brought c.name p w x := by
    obtain rfl := still_prepare c settings hprepare
    obtain ⟨hsets, p, hcount, hbrought, hdone⟩ := exec_applyServices hname hservices
    obtain ⟨hsame, hform, hnote⟩ := exec_place hname (hw.congr hsets) hplace
    refine ⟨hform, ?_⟩
    rcases hnote with ⟨hnote, -⟩ | hnote
    · exact ⟨p, hcount, hbrought.unnoted hsame hnote⟩
    · exact ⟨{ p with noted := true }, hcount,
        hbrought.noted (hdone _ rfl) hsame (hnote.trans hcount.symm)⟩
  cases Cluster.passCourse_of_exec h with
  | finalized _ hfinalize =>
    obtain rfl := still_finalize c hfinalize
    exact ⟨hw, _, rfl, brought_self _ _ _⟩
  | unprepared _ hprepare =>
    obtain rfl := still_prepare c settings hprepare
    exact ⟨hw, _, rfl, brought_self _ _ _⟩
  | unserved _ hprepare hservices =>
    obtain rfl := still_prepare c settings hprepare
    obtain ⟨hsets, p, hcount, hbrought, -⟩ := exec_applyServices hname hservices
    exact ⟨hw.congr hsets, p, hcount, hbrought⟩
  | unplaced _ hprepare hservices hplace | waiting _ hprepare hservices hplace =>
    exact hserved hprepare hservices hplace
  | @settled perPod _ _ _ _ _ _ hprepare hservices hplace hsettle =>
    obtain rfl := still_settle c perPod hsettle
    exact hserved hprepare hservices hplace

/-! ## Passes one after the other -/

/-- What passes over a cluster may have come to, the latest one first. They start without services
of members and without a stateful set, and what happens besides them leaves both alone. -/
inductive Run (name : String) : List PassRecord → ClusterWorld → Prop where
  | start {w : ClusterWorld} (hservices : ∀ i, ¬ w.Has name i)
      (hset : w.statefulSets.objects.get? name = none) : Run name [] w
  | pass {history : List PassRecord} {w w' : ClusterWorld} {c : Cluster} {settings : Settings}
      {r : Except Error Next} {p : PassRecord} (before : Run name history w)
      (hname : c.metadata.name = some name) (h : Exec unreliable (c.reconcile settings) w r w')
      (hcount : p.count = c.perPodCount) (hbrought : Brought name p w w') :
      Run name (p :: history) w'
  | others {history : List PassRecord} {w w' : ClusterWorld} (before : Run name history w)
      (hservices : ∀ i, w'.Has name i ↔ w.Has name i) (hnote : w'.note name = w.note name)
      (hset : w.WellFormed name → w'.WellFormed name) : Run name history w'

/-- What the passes so far tell of the services of members and of the note. -/
structure Accounts (name : String) (history : List PassRecord) (w : ClusterWorld) : Prop where
  wellFormed : w.WellFormed name
  note_eq : w.note name = noteOf history
  leftOver_iff : ∀ i, LeftOver i history ↔ w.Has name i ∧ w.note name ≤ i

theorem accounts_nil (hservices : ∀ i, ¬ w.Has name i)
    (hset : w.statefulSets.objects.get? name = none) : Accounts name [] w where
  wellFormed s hs := by rw [hset] at hs; cases hs
  note_eq := by unfold note; rw [hset]; rfl
  leftOver_iff i := ⟨False.elim, fun h => hservices i h.1⟩

/-- A service that the pass has made. -/
theorem Brought.leftOver_made (h : Brought name p w w') (hnote : w.note name = noteOf history)
    {i : Nat} (hi : i < p.made) : LeftOver i (p :: history) ↔
      ((w.Has name i ∨ i < p.made) ∧ i ∉ p.removed) ∧
        (if p.noted then p.count else w.note name) ≤ i := by
  have hle := h.made_le
  have hstays : i ∉ p.removed := fun hr => by
    have := (h.stale i hr).1
    omega
  unfold LeftOver
  rw [if_pos hi, ← hnote]
  cases hnoted : p.noted with
  | false => simp [hi, hstays]
  | true =>
    -- the new note tells of all services that the pass has made
    have := (h.complete hnoted).1
    simp only [Bool.true_eq_false, false_and, if_true, false_iff]
    omega

/-- A service that the pass has not made: what the note tells of is removed before a new note. -/
theorem Brought.leftOver_unmade (h : Brought name p w w') {i : Nat}
    (before : LeftOver i history ↔ w.Has name i ∧ w.note name ≤ i) (hi : p.made ≤ i) :
    LeftOver i (p :: history) ↔ ((w.Has name i ∨ i < p.made) ∧ i ∉ p.removed) ∧
      (if p.noted then p.count else w.note name) ≤ i := by
  have hstays : w.note name ≤ i → i ∉ p.removed := fun hn hr => by
    have := (h.stale i hr).2
    omega
  unfold LeftOver
  rw [if_neg (Nat.not_lt.2 hi), before, or_iff_left (Nat.not_lt.2 hi)]
  cases hnoted : p.noted with
  | false =>
    rw [if_neg Bool.false_ne_true]
    exact ⟨fun ⟨hhas, hn⟩ => ⟨⟨hhas, hstays hn⟩, hn⟩, fun ⟨⟨hhas, _⟩, hn⟩ => ⟨hhas, hn⟩⟩
  | true =>
    -- what the new note does not tell of any more has been removed, if the old one told of it
    obtain ⟨hmade, hremoved⟩ := h.complete hnoted
    rw [if_pos rfl]
    constructor
    · rintro ⟨hhas, hn⟩
      exact ⟨⟨hhas, hstays hn⟩, hmade ▸ hi⟩
    · rintro ⟨⟨hhas, hr⟩, hcount⟩
      exact ⟨hhas, Nat.not_lt.1 fun hn => hr (hremoved i hcount hn)⟩

theorem Brought.accounts (h : Brought name p w w') (hset : w'.WellFormed name)
    (before : Accounts name history w) : Accounts name (p :: history) w' where
  wellFormed := hset
  note_eq := by
    rw [h.note_eq, before.note_eq]
    rfl
  leftOver_iff i := by
    rw [h.has, h.note_eq]
    by_cases hi : i < p.made
    · exact h.leftOver_made before.note_eq hi
    · exact h.leftOver_unmade (before.leftOver_iff i) (Nat.not_lt.1 hi)

theorem Run.accounts (h : Run name history w) : Accounts name history w := by
  induction h with
  | start hservices hset => exact accounts_nil hservices hset
  | @pass history w w' c settings r p before hname h hcount hbrought ih =>
    obtain rfl := Cluster.name_of_metadata hname
    exact hbrought.accounts (exists_brought hname ih.wellFormed h).1 ih
  | others before hservices hnote hset ih =>
    exact ⟨hset ih.wellFormed, hnote.trans ih.note_eq, fun i => by
      rw [hservices, hnote, ih.leftOver_iff]⟩

/-- Every pass over the cluster goes on with the run, as some record of it. -/
theorem Run.reconcile (h : Run name history w) (hname : c.metadata.name = some name)
    {r : Except Error Next} (hpass : Exec unreliable (c.reconcile settings) w r w') :
    ∃ p : PassRecord, p.count = c.perPodCount ∧ Run name (p :: history) w' := by
  obtain rfl := Cluster.name_of_metadata hname
  obtain ⟨-, p, hcount, hbrought⟩ := exists_brought hname h.accounts.wellFormed hpass
  exact ⟨p, hcount, h.pass hname hpass hcount hbrought⟩

/-! ## Passes that come past the stateful set -/

/-- After such a pass there are the services of all members, and those that were left over. -/
theorem Completes.has_iff (hrun : Run name history w) (hname : c.metadata.name = some name)
    (hpass : Completes c settings w w') (i : Nat) :
    w'.Has name i ↔ i < c.perPodCount ∨ LeftOver i history := by
  obtain rfl := Cluster.name_of_metadata hname
  have hbefore := hrun.accounts
  obtain ⟨p, hcount, hnoted, hp⟩ := hpass.exists_brought hname hbefore.wellFormed
  obtain ⟨hmade, hremoved⟩ := hp.complete hnoted
  rw [hp.has, hbefore.leftOver_iff, hmade, hcount]
  constructor
  · rintro ⟨hhas | hi, hr⟩
    · rcases Nat.lt_or_ge i c.perPodCount with hi | hi
      · exact .inl hi
      · exact .inr ⟨hhas, Nat.not_lt.1 fun hn => hr (hremoved i (hcount ▸ hi) hn)⟩
    · exact .inl hi
  · rintro (hi | ⟨hhas, hn⟩)
    · exact ⟨.inr hi, fun hr => Nat.not_le.2 hi (hcount ▸ (hp.stale i hr).1)⟩
    · exact ⟨.inl hhas, fun hr => Nat.not_le.2 (hp.stale i hr).2 hn⟩

/-- The services of members are those that the cluster should have exactly if no service beyond
those is left over. -/
theorem services_complete_iff (hrun : Run name history w) (hname : c.metadata.name = some name)
    (hpass : Completes c settings w w') :
    (∀ i, w'.Has name i ↔ i < c.perPodCount) ↔
      ∀ i, c.perPodCount ≤ i → ¬ LeftOver i history := by
  constructor
  · intro h i hi hleft
    have := (h i).1 ((hpass.has_iff hrun hname i).2 (.inr hleft))
    omega
  · intro h i
    rw [hpass.has_iff hrun hname i]
    refine or_iff_left_of_imp fun hleft => ?_
    by_contra hi
    exact h i (Nat.not_lt.1 hi) hleft

/-! ## A service that is left over -/

/-- A cluster of one member that is to have a load balancer. -/
def exposed : Cluster where
  metadata := { name := some "hz", space := some "default" }
  spec := { clusterSize := 1, exposeExternally := some { memberAccess := some .loadBalancer } }

/-- The same cluster inside the platform only. -/
def hidden : Cluster := { exposed with spec := { exposed.spec with exposeExternally := none } }

/-- A pass has made the service of the member and waits for its load balancer. -/
def waiting : ClusterWorld := ((exposed.reconcile {}).run.run serve {}).2

theorem completes_hidden : ∃ w', Completes hidden {} waiting w' := by
  refine ⟨_, rfl, [], _, _, _, _, exec_serve_ok ?_, exec_serve_ok ?_, exec_serve_ok ?_,
    exec_serve _ _⟩
  · rfl
  · rfl
  · rfl

theorem exists_leftOver : ∃ (history : List PassRecord) (w w' : ClusterWorld),
    Run "hz" history w ∧ Completes hidden {} w w' ∧ LeftOver 0 history := by
  have hstart : Run "hz" [] {} := .start (fun i => nofun) rfl
  have hexec : Exec unreliable (exposed.reconcile {}) {} _ waiting := exec_serve _ _
  obtain ⟨p, -, hrun⟩ := hstart.reconcile (c := exposed) rfl hexec
  obtain ⟨w', hpass⟩ := completes_hidden
  refine ⟨[p], waiting, w', hrun, hpass, (hrun.accounts.leftOver_iff 0).2 ⟨?_, ?_⟩⟩
  · unfold Has
    decide +kernel
  · decide +kernel

/-- A cluster inside the platform only may keep the service of a member. -/
theorem services_complete_iff_hidden : ∃ (history : List PassRecord) (w w' : ClusterWorld),
    Run "hz" history w ∧ hidden.metadata.name = some "hz" ∧ Completes hidden {} w w' ∧
      ¬ ∀ i, w'.Has "hz" i ↔ i < hidden.perPodCount := by
  obtain ⟨history, w, w', hrun, hpass, hleft⟩ := exists_leftOver
  refine ⟨history, w, w', hrun, rfl, hpass, fun h => ?_⟩
  exact (services_complete_iff hrun rfl hpass).1 h 0 (Nat.zero_le _) hleft

end ClusterWorld

end GridOperator
