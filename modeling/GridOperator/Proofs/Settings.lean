import GridOperator.Backup.Scheduler
import GridOperator.Management.Endpoint
import GridOperator.Proofs.Json.Recorded
import GridOperator.Proofs.Results
import GridOperator.Proofs.Text.Cutting
import GridOperator.Settings

/-!
# What the settings are for

One setting is the period of a clock, at whose ticks the scheduler looks for what is
due, another is how long a request to a cluster may take. A clock without a period does
not tick at all, and no request is done in no time. Both are read as numbers that may
be zero, so that backups recur and clusters can be told something exactly if the variable
is not set to zero (`Settings.ofEnvironment_serves_iff`).
-/

namespace GridOperator

open Kubernetes Text

/-! ## Clocks -/

/-- What is known of the clocks of a platform, which tick at some times if they are started with a
period in milliseconds. Without a period they stop at once; otherwise they tick on and on. -/
structure IsClock (times? : (period : Nat) → Option (Nat → Instant)) : Prop where
  stops : times? 0 = none
  ticks : ∀ period, 0 < period → ∃ times, times? period = some times ∧ ∀ t, ∃ n, t ≤ times n

namespace Scheduler

variable {Job : Type} {s : Scheduler Job} {entry : ObjectKey × Scheduled Job} {t : Instant}
  {times : Nat → Instant} {times? : Nat → Option (Nat → Instant)} {period n : Nat}

/-- The jobs that the first ticks fire, and the scheduler after them. -/
def ticked (times : Nat → Instant) (s : Scheduler Job) : Nat → List Job × Scheduler Job
  | 0 => ([], s)
  | n + 1 =>
    let (jobs, s) := ticked times s n
    (jobs ++ (s.tick (times n)).1, (s.tick (times n)).2)

/-- The jobs that are fired by the `n`-th tick of a clock that was started with a period. -/
def fired (times? : Nat → Option (Nat → Instant)) (period : Nat) (s : Scheduler Job) (n : Nat) :
    List Job :=
  match times? period with
  | some times => (s.ticked times n).1
  | none => []

theorem mem_tick_of_isDue (h : entry ∈ s) (hdue : isDue t entry.2) :
    entry.2.job ∈ (s.tick t).1 :=
  List.mem_map_of_mem (List.mem_filter.2 ⟨h, hdue⟩)

/-- What is not due stays as it is. -/
theorem mem_tick_of_not_isDue (h : entry ∈ s) (hdue : ¬ isDue t entry.2) :
    entry ∈ (s.tick t).2 :=
  List.mem_map.2 ⟨entry, h, if_neg hdue⟩

/-- A job waits in the scheduler until it is fired. -/
theorem mem_ticked (h : entry ∈ s) (times : Nat → Instant) (n : Nat) :
    entry.2.job ∈ (s.ticked times n).1 ∨ entry ∈ (s.ticked times n).2 := by
  induction n with
  | zero => exact .inr h
  | succ n ih =>
    rw [ticked]
    rcases ih with hfired | hwaits
    · exact .inl (List.mem_append_left _ hfired)
    · by_cases hdue : isDue (times n) entry.2
      · exact .inl (List.mem_append_right _ (mem_tick_of_isDue hwaits hdue))
      · exact .inr (mem_tick_of_not_isDue hwaits hdue)

/-- A tick that does not come too early fires it. -/
theorem mem_ticked_of_le (h : entry ∈ s) (hnext : entry.2.next = some t) (hle : t ≤ times n) :
    entry.2.job ∈ (s.ticked times (n + 1)).1 := by
  rw [ticked]
  rcases mem_ticked h times n with hfired | hwaits
  · exact List.mem_append_left _ hfired
  · have hdue : isDue (times n) entry.2 := by
      rw [isDue, hnext]
      exact decide_eq_true hle
    exact List.mem_append_right _ (mem_tick_of_isDue hwaits hdue)

/-- What has a next time is fired some day exactly if the clock has a period. -/
theorem exists_fired_iff (hclock : IsClock times?) (h : entry ∈ s) (hnext : entry.2.next.isSome) :
    (∃ n, entry.2.job ∈ s.fired times? period n) ↔ 0 < period := by
  unfold fired
  constructor
  · rintro ⟨n, hfired⟩
    refine Nat.pos_of_ne_zero ?_
    rintro rfl
    rw [hclock.stops] at hfired
    cases hfired
  · intro hperiod
    obtain ⟨times, htimes, hon⟩ := hclock.ticks period hperiod
    obtain ⟨t, ht⟩ := Option.isSome_iff_exists.1 hnext
    obtain ⟨n, hle⟩ := hon t
    rw [htimes]
    exact ⟨n + 1, mem_ticked_of_le h ht hle⟩

end Scheduler

/-! ## Requests with a limit -/

/-- What is known of clients with a limit. They give the response if it is there before the limit,
and fail if it is not. Limits and delays are in nanoseconds. -/
structure IsLimited (await : (limit delay : Nat) → Except HttpFailure HttpResponse →
    Except HttpFailure HttpResponse) : Prop where
  early : ∀ limit delay response, delay < limit → await limit delay response = response
  late : ∀ limit delay response, limit < delay → await limit delay response = .error .timeout

namespace Endpoint

variable {await : (limit delay : Nat) → Except HttpFailure HttpResponse →
  Except HttpFailure HttpResponse} {e : Endpoint} {call : ManageCall} {seconds : Nat}

/-- What becomes of an operation if the response takes a while. -/
def answered (e : Endpoint) (call : ManageCall) (answer : Except HttpFailure HttpResponse) :
    Except Error ManageResponse :=
  (Script.run (fun _ (_ : Unit) => (answer, ())) (e.post call) ()).1

theorem answered_ok (h : Url.isHttp (e.request call).url) (response : HttpResponse) :
    e.answered call (.ok response) = read call response := by
  unfold answered post HttpRequest.send
  rw [if_pos h]
  rfl

theorem answered_error (h : Url.isHttp (e.request call).url) (failure : HttpFailure) :
    e.answered call (.error failure) = .error (.http failure) := by
  unfold answered post HttpRequest.send
  rw [if_pos h]
  rfl

/-- A response that says no more than that all went well. -/
def success : HttpResponse := ⟨200, (Json.obj [("status", .str "success")]).render⟩

theorem read_success (call : ManageCall) :
    read call success = .ok { status := "success", state := none, message := none } := by
  have hread : Json.parse? success.body = some (.obj [("status", .str "success")]) :=
    Json.parse?_render (Json.plain_record (by decide) (by simpa using Json.Plain.str _))
  have hresponse : ManageResponse.ofJson? (.obj [("status", .str "success")]) =
      some { status := "success", state := none, message := none } := by decide +kernel
  have hmet : (Json.parse? success.body).bind ManageResponse.ofJson? =
      some { status := "success", state := none, message := none } := by
    rw [hread, Option.bind_some, hresponse]
  unfold read
  rw [show success.accepted = .ok success.body from rfl]
  simp only [bind, Except.bind, hmet]
  rfl

/-- An operation can be done exactly if it may take some time. -/
theorem exists_answered_iff (hawait : IsLimited await) (h : Url.isHttp (e.request call).url) :
    (∃ delay response r, 0 < delay ∧
      e.answered call (await (seconds * 1000000000) delay response) = .ok r) ↔ 0 < seconds := by
  constructor
  · rintro ⟨delay, response, r, hdelay, hr⟩
    refine Nat.pos_of_ne_zero ?_
    rintro rfl
    rw [Nat.zero_mul, hawait.late 0 delay response hdelay, answered_error h] at hr
    cases hr
  · intro hseconds
    have hearly := hawait.early (seconds * 1000000000) 1 (.ok success) (by omega)
    have hread : e.answered call (await (seconds * 1000000000) 1 (.ok success)) =
        .ok { status := "success", state := none, message := none } := by
      rw [hearly, answered_ok h, read_success]
    exact ⟨1, .ok success, _, Nat.one_pos, hread⟩

end Endpoint

/-! ## Variables -/

namespace Settings

variable {lookup : String → Option String} {settings : Settings} {name : String} {n : Nat}

/-- Whether a variable holds a zero. -/
def IsZero (lookup : String → Option String) (name : String) : Prop :=
  ∃ text, lookup name = some text ∧ GridOperator.Text.IsZero text.toList

theorem readNumber_eq_zero_iff {text : String} :
    readNumber name text = .ok 0 ↔ GridOperator.Text.IsZero text.toList := by
  rw [← readNatural_eq_zero_iff, readNumber]
  cases readNatural 0xffffffffffffffff text.toList with
  | ok n => exact ⟨fun h => congrArg _ (Except.ok.inj h), fun h => congrArg _ (Except.ok.inj h)⟩
  | error fault => exact iff_of_false nofun nofun

theorem orDefault_eq_zero_iff {default : Nat} (hdefault : 0 < default) :
    orDefault (lookup name) (readNumber name) default = .ok 0 ↔ IsZero lookup name := by
  unfold IsZero orDefault
  cases lookup name with
  | none =>
    refine iff_of_false (fun h => hdefault.ne' (Except.ok.inj h)) ?_
    rintro ⟨_, h, -⟩
    cases h
  | some text =>
    refine readNumber_eq_zero_iff.trans ?_
    constructor
    · intro h
      exact ⟨text, rfl, h⟩
    · rintro ⟨_, htext, h⟩
      obtain rfl := Option.some.inj htext
      exact h

theorem pos_iff_of_orDefault {default : Nat} (hdefault : 0 < default)
    (h : orDefault (lookup name) (readNumber name) default = .ok n) :
    0 < n ↔ ¬ IsZero lookup name := by
  rw [Nat.pos_iff_ne_zero, not_iff_not, ← orDefault_eq_zero_iff hdefault, h]
  exact ⟨fun h => congrArg _ h, fun h => Except.ok.inj h⟩

/-- Each number comes from its own variable. -/
theorem numbers_of_ofEnvironment (h : ofEnvironment lookup = .ok settings) :
    orDefault (lookup "CLUSTER_API_TIMEOUT_SECS") (readNumber "CLUSTER_API_TIMEOUT_SECS") 10 =
        .ok settings.timeoutSeconds ∧
      orDefault (lookup "CRON_TICK_MILLIS") (readNumber "CRON_TICK_MILLIS") 1000 =
        .ok settings.tickMillis := by
  unfold ofEnvironment at h
  obtain ⟨platform, -, h⟩ := Except.exists_of_bind_eq_ok h
  obtain ⟨phoneHome, -, h⟩ := Except.exists_of_bind_eq_ok h
  obtain ⟨timeoutSeconds, htimeout, h⟩ := Except.exists_of_bind_eq_ok h
  obtain ⟨tickMillis, htick, h⟩ := Except.exists_of_bind_eq_ok h
  obtain rfl := Except.ok.inj h
  exact ⟨htimeout, htick⟩

/-- Where the settings are accepted, the period and the limit are positive exactly if their
variables are not set to zero. So recurring backups are fired, and operations can be done. -/
theorem ofEnvironment_serves_iff (h : ofEnvironment lookup = .ok settings)
    {times? : Nat → Option (Nat → Instant)} (hclock : IsClock times?)
    {await : Nat → Nat → Except HttpFailure HttpResponse → Except HttpFailure HttpResponse}
    (hawait : IsLimited await) :
    (0 < settings.tickMillis ↔ ¬ IsZero lookup "CRON_TICK_MILLIS") ∧
    (∀ {Job : Type} (s : Scheduler Job), ∀ entry ∈ s, entry.2.next.isSome →
      ((∃ n, entry.2.job ∈ s.fired times? settings.tickMillis n) ↔
        ¬ IsZero lookup "CRON_TICK_MILLIS")) ∧
    (0 < settings.timeoutSeconds ↔ ¬ IsZero lookup "CLUSTER_API_TIMEOUT_SECS") ∧
    ∀ (e : Endpoint) (call : ManageCall), Url.isHttp (e.request call).url →
      ((∃ delay response r, 0 < delay ∧ e.answered call
          (await (settings.timeoutSeconds * 1000000000) delay response) = .ok r) ↔
        ¬ IsZero lookup "CLUSTER_API_TIMEOUT_SECS") := by
  obtain ⟨htimeout, htick⟩ := numbers_of_ofEnvironment h
  have hperiod := pos_iff_of_orDefault (by decide) htick
  have hlimit := pos_iff_of_orDefault (by decide) htimeout
  exact ⟨hperiod, fun s entry hentry hnext =>
      (Scheduler.exists_fired_iff hclock hentry hnext).trans hperiod,
    hlimit, fun e call hurl => (Endpoint.exists_answered_iff hawait hurl).trans hlimit⟩

/-- A clock that starts at zero and is never late. -/
def everyPeriod (period : Nat) : Option (Nat → Instant) :=
  if period = 0 then none else some fun n => ((n * period / 1000 : Nat) : Int)

theorem isClock_everyPeriod : IsClock everyPeriod where
  stops := rfl
  ticks period hperiod := by
    refine ⟨_, if_neg hperiod.ne', fun t => ⟨1000 * t.toNat, ?_⟩⟩
    have hseconds : 1000 * t.toNat * period / 1000 = t.toNat * period := by
      rw [Nat.mul_assoc, Nat.mul_div_cancel_left _ (by decide)]
    have hle : t.toNat ≤ t.toNat * period := Nat.le_mul_of_pos_right _ hperiod
    rw [hseconds]
    exact (Int.self_le_toNat t).trans (Int.ofNat_le.2 hle)

/-- A client that gives up at its limit. -/
def giveUp (limit delay : Nat) (response : Except HttpFailure HttpResponse) :
    Except HttpFailure HttpResponse :=
  if delay < limit then response else .error .timeout

theorem isLimited_giveUp : IsLimited giveUp where
  early _ _ _ h := if_pos h
  late _ _ _ h := if_neg h.not_gt

/-- An environment where the period is zero and all else is left out. -/
def stopped (name : String) : Option String := if name = "CRON_TICK_MILLIS" then some "0" else none

/-- It is accepted, and no recurring backup is ever fired. -/
theorem ofEnvironment_serves_iff_stopped : ∃ settings, ofEnvironment stopped = .ok settings ∧
    ¬ 0 < settings.tickMillis ∧ 0 < settings.timeoutSeconds ∧
    ∀ s : Scheduler Unit, ∀ entry ∈ s, entry.2.next.isSome →
      ¬ ∃ n, entry.2.job ∈ s.fired everyPeriod settings.tickMillis n := by
  have h : ofEnvironment stopped = .ok { tickMillis := 0 } := by decide +kernel
  obtain ⟨hperiod, hfired, hlimit, -⟩ :=
    ofEnvironment_serves_iff h isClock_everyPeriod isLimited_giveUp
  have hzero : IsZero stopped "CRON_TICK_MILLIS" :=
    ⟨"0", rfl, ['0'], List.cons_ne_nil _ _, fun c hc => List.mem_singleton.1 hc, .inl rfl⟩
  have hunset : ¬ IsZero stopped "CLUSTER_API_TIMEOUT_SECS" := by
    rintro ⟨text, htext, -⟩
    cases htext
  exact ⟨_, h, mt hperiod.1 (not_not_intro hzero), hlimit.2 hunset,
    fun s entry hentry hnext => mt (hfired s entry hentry hnext).1 (not_not_intro hzero)⟩

end Settings

end GridOperator
