import PyFrp.Coding.Windows
import PyFrp.Supervisor.Breaker

/-!
# Failure accounting

The three methods that keep the failures and the suppressed target, called in any
order and with any targets. Pruning looks at the front of a history only; as the
clock does not go back, the histories are in order, and what is kept is what the
window has.
-/

namespace PyFrp

open Python Coop Coding

namespace Supervisor

/-- A call of one of the methods, with the reading of the clock. -/
inductive Call
  | recordFailure (target : String) (now : Int)
  | clearFailures (target : String)
  | clearSuppressionIfVersionChanged (current : String)

/-- A call that was made, with what `_record_failure` returned. -/
inductive Entry
  | recorded (target : String) (now : Int) (opened : Bool)
  | succeeded (target : String)
  | observed (current : String)
  deriving DecidableEq

/-- A supervisor and the calls so far, most recent first. -/
structure Account where
  supervisor : Supervisor
  past : List Entry

def Account.call (a : Account) : Call → Account
  | .recordFailure target now =>
      let (s, opened) := { a.supervisor with clock := now }.recordFailure target
      ⟨s, .recorded target now opened :: a.past⟩
  | .clearFailures target =>
      ⟨a.supervisor.clearFailures target, .succeeded target :: a.past⟩
  | .clearSuppressionIfVersionChanged current =>
      ⟨a.supervisor.clearSuppressionIfVersionChanged current, .observed current :: a.past⟩

def accounting (environ : Environment) : System Account Call where
  init := ⟨initial environ, []⟩
  step a c := some (a.call c)

/-! ## What the past says -/

/-- The readings of the clock. -/
def readings (past : List Entry) : List Int :=
  past.filterMap fun
    | .recorded _ now _ => some now
    | _ => none

/-- The clock does not go back. -/
def Timely (a : Account) : Call → Prop
  | .recordFailure _ now => ∀ t ∈ readings a.past, t ≤ now
  | _ => True

/-- The target of the last opening of a breaker, and what came after it. -/
def lastOpening : List Entry → Option (String × List Entry)
  | [] => none
  | .recorded target _ true :: _ => some (target, [])
  | e :: earlier => (lastOpening earlier).map fun (target, later) => (target, e :: later)

/-- A success of the target, or an observation of another version. -/
def Entry.closes (target : String) : Entry → Bool
  | .recorded .. => false
  | .succeeded other => other = target
  | .observed current => current ≠ target

/-- The target of the last opening, if nothing has closed the breaker since. -/
def openBreaker (past : List Entry) : Option String :=
  match lastOpening past with
  | none => none
  | some (target, later) => if later.any (Entry.closes target) then none else some target

/-- The history of the target is cleared: by its success, or with all histories by an
observation of another version than the suppressed one. -/
def Entry.clears (target : String) (earlier : List Entry) : Entry → Bool
  | .recorded .. => false
  | .succeeded other => other = target
  | .observed current => (openBreaker earlier).any (· ≠ current)

/-- The failures recorded for the target since its history was cleared, in order. -/
def failuresSince (target : String) : List Entry → List Int
  | [] => []
  | e :: earlier =>
      if e.clears target earlier then []
      else
        match e with
        | .recorded other now _ =>
            if other = target then failuresSince target earlier ++ [now]
            else failuresSince target earlier
        | _ => failuresSince target earlier

/-- Those of them that the window of `now` has. -/
def countedFailures (target : String) (now : Int) (past : List Entry) : List Int :=
  (failuresSince target past).filter (now - restartFailureWindow ≤ ·)

/-- What a call of `_record_failure` does. -/
structure Counted (target : String) (now : Int) (a a' : Account) : Prop where
  history : a'.supervisor.failures.get? target = some (countedFailures target now a'.past)
  returned : a'.past =
    .recorded target now (restartFailureLimit ≤ (countedFailures target now a'.past).length) ::
      a.past
  suppressed : a'.supervisor.suppressedTarget =
    if restartFailureLimit ≤ (countedFailures target now a'.past).length then some target
    else a.supervisor.suppressedTarget
  others : ∀ other, other ≠ target →
    a'.supervisor.failures.get? other = a.supervisor.failures.get? other

variable {environ : Environment} {a : Account} {target : String} {past : List Entry}

/-! ## One more entry -/

theorem lastOpening_cons {e : Entry} (h : ∀ target now, e ≠ .recorded target now true) :
    lastOpening (e :: past) =
      (lastOpening past).map fun (target, later) => (target, e :: later) := by
  cases e with
  | recorded target now opened =>
      cases opened with
      | false => rfl
      | true => exact absurd rfl (h target now)
  | _ => rfl

/-- Nothing but an opening opens a breaker, and the open one may be closed. -/
theorem openBreaker_cons {e : Entry} (h : ∀ target now, e ≠ .recorded target now true) :
    openBreaker (e :: past) = (openBreaker past).filter fun target => !e.closes target := by
  unfold openBreaker
  rw [lastOpening_cons h]
  cases lastOpening past with
  | none => rfl
  | some opening =>
      obtain ⟨target, later⟩ := opening
      simp only [Option.map_some, List.any_cons]
      by_cases hlater : later.any (Entry.closes target) = true
      · simp [hlater]
      · by_cases he : e.closes target = true
        · simp [hlater, he, Option.filter_some]
        · simp [hlater, he, Option.filter_some]

theorem openBreaker_eq_none :
    openBreaker past = none ↔
      ∀ target later, lastOpening past = some (target, later) →
        ∃ e ∈ later, e.closes target = true := by
  unfold openBreaker
  cases lastOpening past with
  | none => simp
  | some opening =>
      obtain ⟨target, later⟩ := opening
      simp only [ite_eq_left_iff, reduceCtorEq, imp_false, not_not, List.any_eq_true,
        Option.some.injEq, Prod.mk.injEq]
      constructor
      · rintro h _ _ ⟨rfl, rfl⟩
        exact h
      · exact fun h => h target later ⟨rfl, rfl⟩

/-! ## The accounts are exact -/

/-- The history of a target, empty if there is none. -/
def history (s : Supervisor) (target : String) : List Int := (s.failures.get? target).getD []

/-- The suppressed target is that of the open breaker, and every history has what the
windows of later readings have. -/
structure Exact (a : Account) : Prop where
  breaker : a.supervisor.suppressedTarget = openBreaker a.past
  read : ∀ target, ∀ t ∈ a.supervisor.history target, t ∈ readings a.past
  window : ∀ target now, (∀ t ∈ readings a.past, t ≤ now) →
    Window (now - restartFailureWindow) (failuresSince target a.past)
      (a.supervisor.history target)

theorem recordFailure_history (s : Supervisor) (target other : String) :
    (s.recordFailure target).1.failures.get? other =
      if other = target then some (s.recentFailures target ++ [s.clock])
      else s.failures.get? other := by
  rw [recordFailure_eq]
  split <;> exact Dict.get?_set ..

theorem recordFailure_result (s : Supervisor) (target : String) :
    (s.recordFailure target).2 = s.limitReached target := by
  rw [recordFailure_eq]
  dsimp only
  split
  · rename_i h
    exact h.symm
  · rename_i h
    exact (Bool.eq_false_iff.mpr h).symm

/-- A failure is added to the failures since the last clearing. -/
@[simp] theorem failuresSince_recorded {other : String} {now : Int} {opened : Bool} :
    failuresSince other (.recorded target now opened :: past) =
      if target = other then failuresSince other past ++ [now] else failuresSince other past :=
  rfl

/-- What is counted is what was kept, and the failure itself. -/
theorem Exact.counted (h : Exact a) {now : Int} {opened : Bool}
    (hnow : ∀ t ∈ readings a.past, t ≤ now) :
    countedFailures target now (.recorded target now opened :: a.past) =
      { a.supervisor with clock := now }.recentFailures target ++ [now] := by
  have hprune := (h.window target now hnow).prune
  have hself : now - restartFailureWindow ≤ now := by
    simp only [restartFailureWindow, ticksPerSecond]
    omega
  rw [countedFailures, failuresSince_recorded, if_pos rfl, List.filter_append, ← hprune,
    List.filter_cons_of_pos (by simpa using hself), List.filter_nil]
  rfl

theorem call_recordFailure (a : Account) (target : String) (now : Int) :
    a.call (.recordFailure target now) =
      ⟨({ a.supervisor with clock := now }.recordFailure target).1,
        .recorded target now ({ a.supervisor with clock := now }.limitReached target) ::
          a.past⟩ := by
  rw [← recordFailure_result]
  rfl

theorem call_history (a : Account) (target other : String) (now : Int) :
    (a.call (.recordFailure target now)).supervisor.history other =
      if other = target then { a.supervisor with clock := now }.recentFailures target ++ [now]
      else a.supervisor.history other := by
  rw [call_recordFailure, history, recordFailure_history]
  by_cases hother : other = target
  · rw [if_pos hother, if_pos hother]
    rfl
  · rw [if_neg hother, if_neg hother]
    rfl

theorem Exact.recordFailure (h : Exact a) {now : Int} (hnow : ∀ t ∈ readings a.past, t ≤ now) :
    Counted target now a (a.call (.recordFailure target now)) := by
  have hlimit : ∀ opened, { a.supervisor with clock := now }.limitReached target = true ↔
      restartFailureLimit ≤
        (countedFailures target now (.recorded target now opened :: a.past)).length := by
    intro opened
    rw [h.counted hnow, List.length_append]
    exact decide_eq_true_iff
  rw [call_recordFailure]
  constructor
  · rw [h.counted hnow, recordFailure_history, if_pos rfl]
  · exact congrArg (fun opened => .recorded target now opened :: a.past)
      (Bool.eq_iff_iff.mpr ((hlimit _).trans decide_eq_true_iff.symm))
  · rw [recordFailure_suppressedTarget]
    exact if_congr (hlimit _) rfl rfl
  · intro other hne
    rw [recordFailure_history, if_neg hne]

theorem Exact.call_recordFailure (h : Exact a) {now : Int}
    (hnow : ∀ t ∈ readings a.past, t ≤ now) : Exact (a.call (.recordFailure target now)) where
  breaker := by
    rw [Supervisor.call_recordFailure, recordFailure_suppressedTarget]
    cases { a.supervisor with clock := now }.limitReached target with
    | true => rfl
    | false =>
        rw [openBreaker_cons (by simp), if_neg Bool.false_ne_true, h.breaker]
        cases openBreaker a.past <;> rfl
  read other t ht := by
    rw [call_history] at ht
    rw [Supervisor.call_recordFailure]
    split at ht
    · rcases List.mem_append.mp ht with ht | ht
      · exact .tail _ (h.read target t ((List.dropWhile_sublist _).subset ht))
      · rw [List.mem_singleton.mp ht]
        exact .head _
    · exact .tail _ (h.read other t ht)
  window other later hlater := by
    rw [call_history]
    rw [Supervisor.call_recordFailure] at hlater ⊢
    have hbefore : ∀ t ∈ readings a.past, t ≤ later := fun t ht => hlater t (.tail _ ht)
    rw [failuresSince_recorded]
    by_cases hother : other = target
    · rw [if_pos hother.symm, if_pos hother, hother]
      have hle : now ≤ later := hlater now (.head _)
      have hpush := (h.window target now hnow).push fun t ht => hnow t (h.read target t ht)
      exact hpush.later (by omega)
    · rw [if_neg (Ne.symm hother), if_neg hother]
      exact h.window other later hbefore

/-! ## Clearing -/

/-- What an entry that records nothing leaves of the failures. -/
theorem failuresSince_cons {e : Entry} (h : ∀ target now opened, e ≠ .recorded target now opened) :
    failuresSince target (e :: past) =
      if e.clears target past then [] else failuresSince target past := by
  cases e with
  | recorded target now opened => exact absurd rfl (h target now opened)
  | _ => rfl

theorem readings_cons {e : Entry} (h : ∀ target now opened, e ≠ .recorded target now opened) :
    readings (e :: past) = readings past := by
  cases e with
  | recorded target now opened => exact absurd rfl (h target now opened)
  | _ => rfl

/-- A call that records nothing keeps the accounts exact if it clears what its entry clears,
and closes what its entry closes. -/
theorem Exact.cleared (h : Exact a) {s : Supervisor} {e : Entry}
    (he : ∀ target now opened, e ≠ .recorded target now opened)
    (hbreaker : s.suppressedTarget =
      a.supervisor.suppressedTarget.filter fun target => !e.closes target)
    (hhistory : ∀ target, s.history target =
      if e.clears target a.past then [] else a.supervisor.history target) :
    Exact ⟨s, e :: a.past⟩ where
  breaker := by
    rw [openBreaker_cons fun target now => he target now true, ← h.breaker]
    exact hbreaker
  read target t ht := by
    rw [readings_cons he]
    rw [hhistory] at ht
    split at ht
    · cases ht
    · exact h.read target t ht
  window target now hnow := by
    rw [readings_cons he] at hnow
    rw [failuresSince_cons he, hhistory]
    split
    · exact .nil
    · exact h.window target now hnow

theorem Exact.call_clearFailures (h : Exact a) : Exact (a.call (.clearFailures target)) := by
  refine h.cleared (by simp) ?_ ?_
  · simp only [clearFailures, Entry.closes]
    cases a.supervisor.suppressedTarget with
    | none => rfl
    | some other =>
        by_cases hother : other = target
        · simp [hother, Option.filter_some]
        · simp [hother, Ne.symm hother, Option.filter_some]
  · intro other
    simp only [clearFailures, Entry.clears, history, Dict.get?_erase]
    by_cases hother : other = target
    · simp [hother]
    · simp [hother, Ne.symm hother]

theorem Exact.call_clearSuppressionIfVersionChanged (h : Exact a) {current : String} :
    Exact (a.call (.clearSuppressionIfVersionChanged current)) := by
  refine h.cleared (by simp) ?_ ?_
  · simp only [clearSuppressionIfVersionChanged, Entry.closes]
    cases hsuppressed : a.supervisor.suppressedTarget with
    | none => simp [hsuppressed]
    | some other =>
        by_cases hother : other = current
        · simp [hsuppressed, hother, Option.filter_some]
        · simp [hother, Ne.symm hother, Option.filter_some]
  · intro other
    simp only [clearSuppressionIfVersionChanged, Entry.clears, history, ← h.breaker]
    cases hsuppressed : a.supervisor.suppressedTarget with
    | none => simp
    | some other =>
        by_cases hother : other = current
        · simp [hother]
        · simp [hother]

theorem exact_of_reachable (h : (accounting environ).ReachableUnder Timely a) : Exact a := by
  refine h.invariant ?_ ?_
  · exact ⟨rfl, fun _ _ ht => ht, fun _ _ _ => .nil⟩
  · intro a c a' _ hi hc hs
    cases hs
    cases c with
    | recordFailure target now => exact hi.call_recordFailure hc
    | clearFailures target => exact hi.call_clearFailures
    | clearSuppressionIfVersionChanged current => exact hi.call_clearSuppressionIfVersionChanged

/-- As long as the clock does not go back, a failure is counted with those of its target that
are in the window and were recorded since the history was cleared, and a target is
suppressed until its breaker is closed. -/
theorem accounting_exact (h : (accounting environ).ReachableUnder Timely a) :
    (∀ target now, (∀ t ∈ readings a.past, t ≤ now) →
      Counted target now a (a.call (.recordFailure target now))) ∧
      (a.supervisor.suppressedTarget = none ↔
        ∀ target later, lastOpening a.past = some (target, later) →
          ∃ e ∈ later, e.closes target = true) := by
  have hexact := exact_of_reachable h
  constructor
  · intro target now hnow
    exact hexact.recordFailure hnow
  · rw [hexact.breaker]
    exact openBreaker_eq_none

/-- Two failures, twenty seconds apart. -/
def failingTwice : Account :=
  ((accounting .empty).init.call (.recordFailure "0.7" 0)).call
    (.recordFailure "0.7" (20 * ticksPerSecond))

/-- The window of the third failure begins with the first one, and has it. -/
theorem accounting_exact_third :
    countedFailures "0.7" (30 * ticksPerSecond)
        (failingTwice.call (.recordFailure "0.7" (30 * ticksPerSecond))).past =
      [0, 20 * ticksPerSecond, 30 * ticksPerSecond] ∧
    Counted "0.7" (30 * ticksPerSecond) failingTwice
      (failingTwice.call (.recordFailure "0.7" (30 * ticksPerSecond))) := by
  have hreach : (accounting .empty).ReachableUnder Timely failingTwice := by
    refine .tail (.tail .init ?_ rfl) ?_ rfl
    · exact fun t ht => absurd ht List.not_mem_nil
    · intro t ht
      rw [List.mem_singleton.mp ht]
      decide
  refine ⟨by decide, (accounting_exact hreach).1 _ _ ?_⟩
  decide

end Supervisor
end PyFrp
