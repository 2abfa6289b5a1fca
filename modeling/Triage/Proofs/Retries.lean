import Triage.Proofs.Delays
import Triage.Retry

namespace Triage

/-!
# The calls and the waits of a run

Which call of a run is the last one is settled by the answers alone: it is the first call that does
not fail in a way worth retrying, or else the one after which no retry is left.  The calls before it
are followed by a wait each, and the last one is followed by nothing.  A wait is the delay after as
many failures, and it is never above the longest delay.

A wait is told before it begins, and one that no double comes near cannot be told.  The run breaks
off there, with a failure that no call has answered.
-/

namespace Backoff

variable {backoff : Backoff} {failures : Int} {random : Float} {wait : Quantity}

theorem lt_least_eq_false (a b : Quantity) : b.lt (a.least b) = false := by
  unfold Quantity.least
  cases below : b.lt a with
  | true => exact Quantity.lt_irrefl b
  | false => exact below

/-- A delay after a failure is the lesser one of something and the longest delay. -/
theorem longest_lt_eq_false (some : 0 < failures)
    (found : backoff.delay (.whole failures) random = .ok wait) :
    backoff.longest.lt wait = false := by
  have counts : (Quantity.whole failures).le (.whole 0) = false :=
    Quantity.le_eq_false_of_lt ((Quantity.lt_zero_iff rfl).mpr some)
  rw [delay, counts, if_neg Bool.false_ne_true] at found
  rcases Result.bind_eq_ok_iff.mp found with ⟨steady, grown, rest⟩
  split at rest
  · rcases Result.bind_eq_ok_iff.mp rest with ⟨shared, _, least⟩
    cases least
    exact lt_least_eq_false shared backoff.longest
  · cases rest
    rcases Result.bind_eq_ok_iff.mp grown with ⟨steps, _, rest⟩
    rcases Result.bind_eq_ok_iff.mp rest with ⟨growth, _, rest⟩
    rcases Result.bind_eq_ok_iff.mp rest with ⟨product, _, least⟩
    cases least
    exact lt_least_eq_false product backoff.longest

/-- Without jitter it does not matter which random number is drawn. -/
theorem delay_of_steady (steady : backoff.jitter = false) (failures : Quantity)
    (random other : Float) : backoff.delay failures random = backoff.delay failures other := by
  simp only [delay, steady, Bool.false_eq_true, if_false]

end Backoff

namespace Retry

variable {S A : Type} {isRetried : Failure -> Bool} {call : S -> Except Failure A × S} {state : S}

/-! ## Calls one after another -/

/-- The state that a number of calls leaves. -/
def after (call : S -> Except Failure A × S) (state : S) : Nat -> S
  | 0 => state
  | made + 1 => (call (after call state made)).2

/-- What the call answers that comes after a number of others. -/
def answer (call : S -> Except Failure A × S) (state : S) (made : Nat) : Except Failure A :=
  (call (after call state made)).1

/-- An answer that is a failure worth retrying. -/
def IsRetried (isRetried : Failure -> Bool) (answer : Except Failure A) : Prop :=
  Exists fun failure => answer = .error failure ∧ isRetried failure = true

/-- The last call of a run is the one that comes after a number of others: they all failed in a way
worth retrying, and it does not, or no retry is left. -/
structure EndsAfter (retries : Nat) (isRetried : Failure -> Bool)
    (call : S -> Except Failure A × S) (state : S) (made : Nat) : Prop where
  within : made ≤ retries
  before : forall earlier, earlier < made -> IsRetried isRetried (answer call state earlier)
  last : made = retries ∨ ¬IsRetried isRetried (answer call state made)

namespace EndsAfter

variable {retries made other : Nat}

theorem unique (one : EndsAfter retries isRetried call state made)
    (two : EndsAfter retries isRetried call state other) : made = other := by
  rcases Nat.lt_trichotomy made other with less | same | more
  · rcases one.last with all | ended
    · exact absurd two.within (by omega)
    · exact absurd (two.before made less) ended
  · exact same
  · rcases two.last with all | ended
    · exact absurd one.within (by omega)
    · exact absurd (one.before other more) ended

theorem exists_of (retries : Nat) (isRetried : Failure -> Bool)
    (call : S -> Except Failure A × S) (state : S) :
    Exists fun made => EndsAfter retries isRetried call state made := by
  induction retries with
  | zero => exact ⟨0, Nat.le_refl 0, nofun, .inl rfl⟩
  | succ retries inductionHypothesis =>
      rcases inductionHypothesis with ⟨made, within, before, last⟩
      by_cases again : IsRetried isRetried (answer call state made)
      · cases last.resolve_right (not_not_intro again)
        refine ⟨retries + 1, Nat.le_refl _, fun earlier less => ?_, .inl rfl⟩
        rcases Nat.lt_succ_iff_lt_or_eq.mp less with sooner | rfl
        · exact before earlier sooner
        · exact again
      · exact ⟨made, Nat.le_succ_of_le within, before, .inr again⟩

end EndsAfter

/-! ## Waits -/

/-- The wait after a number of failures and one more, if it can be told. -/
def waitAfter (backoff : Backoff) (randoms : List Float) (failures : Nat) :
    Except Failure Quantity := nextWait backoff failures (randoms.drop failures)

variable {backoff : Backoff} {randoms drawn : List Float} {failures left : Nat} {wait : Quantity}

theorem waitAfter_eq_ok_iff : waitAfter backoff randoms failures = .ok wait <->
    backoff.delay (.whole (failures + 1)) (randoms[failures]?.getD laterRandom) = .ok wait ∧
      Exists fun x => wait.toFloat? = some x := by
  rw [waitAfter, nextWait, List.head?_drop, Result.bind_eq_ok_iff]
  constructor
  · rintro ⟨delay, found, told⟩
    cases near : delay.toFloat? with
    | none => rw [near] at told; cases told
    | some x =>
        rw [near] at told
        cases told
        exact ⟨found, x, near⟩
  · rintro ⟨found, x, near⟩
    exact ⟨wait, found, by rw [near]; rfl⟩

/-- Random numbers that are left after a number of failures, as far as any is drawn at all. -/
def AreLeft (backoff : Backoff) (randoms drawn : List Float) (failures : Nat) : Prop :=
  backoff.jitter = true -> drawn = randoms.drop failures

theorem AreLeft.next (areLeft : AreLeft backoff randoms drawn failures) :
    AreLeft backoff randoms (if backoff.jitter then drawn.tail else drawn) (failures + 1) := by
  intro jitter
  rw [if_pos jitter, areLeft jitter, List.tail_drop]

theorem AreLeft.nextWait_eq (areLeft : AreLeft backoff randoms drawn failures) :
    nextWait backoff failures drawn = waitAfter backoff randoms failures := by
  cases jitter : backoff.jitter with
  | true => rw [areLeft jitter, waitAfter]
  | false => rw [waitAfter, nextWait, nextWait, Backoff.delay_of_steady jitter]

/-- The waits after each of the first failures, if they can be told. -/
def AreTold (backoff : Backoff) (randoms : List Float) (made : Nat) (waits : List Quantity) :
    Prop := waits.map .ok = (List.range made).map (waitAfter backoff randoms)

namespace AreTold

variable {made : Nat} {waits : List Quantity}

theorem length_eq (told : AreTold backoff randoms made waits) : waits.length = made := by
  have lengths := congrArg List.length told
  rwa [List.length_map, List.length_map, List.length_range] at lengths

theorem getElem? (told : AreTold backoff randoms made waits) {earlier : Nat}
    (found : waits[earlier]? = some wait) : waitAfter backoff randoms earlier = .ok wait := by
  have less : earlier < made := told.length_eq ▸ (List.getElem?_eq_some_iff.mp found).1
  have both := congrArg (·[earlier]?) told
  rw [List.getElem?_map, List.getElem?_map, found, List.getElem?_range less] at both
  exact (Option.some.inj both).symm

theorem exists_of {made : Nat} (each : forall earlier, earlier < made ->
    Exists fun wait => waitAfter backoff randoms earlier = .ok wait) :
    Exists fun waits => AreTold backoff randoms made waits := by
  induction made with
  | zero => exact ⟨[], rfl⟩
  | succ made inductionHypothesis =>
      rcases inductionHypothesis fun earlier less => each earlier (Nat.lt_succ_of_lt less) with
        ⟨waits, told⟩
      rcases each made (Nat.lt_succ_self made) with ⟨wait, next⟩
      refine ⟨waits ++ [wait], ?_⟩
      rw [AreTold, List.range_succ, List.map_append, List.map_append, told, List.map_singleton,
        List.map_singleton, next]

end AreTold

/-! ## Attempts -/

theorem attempt_of_last (last : left = 0 ∨ ¬IsRetried isRetried (call state).1) :
    attempt backoff isRetried call left failures drawn state =
      ⟨(call state).1, 1, [], (call state).2⟩ := by
  rw [attempt.eq_def]
  cases answered : (call state).1 with
  | ok value => simp only [answered]
  | error failure =>
      cases worth : isRetried failure with
      | false => simp only [answered, worth, Bool.not_false, if_true]
      | true =>
          rcases last with rfl | ended
          · simp only [answered, worth, Bool.not_true, Bool.false_eq_true, if_false]
          · exact absurd ⟨failure, answered, worth⟩ ended

theorem attempt_of_wait (again : IsRetried isRetried (call state).1)
    (told : nextWait backoff failures drawn = .ok wait) :
    attempt backoff isRetried call (left + 1) failures drawn state =
      let later := attempt backoff isRetried call left (failures + 1)
        (if backoff.jitter then drawn.tail else drawn) (call state).2
      ⟨later.result, later.calls + 1, wait :: later.waits, later.state⟩ := by
  rcases again with ⟨failure, answered, worth⟩
  rw [attempt.eq_def]
  simp only [answered, worth, told, Bool.not_true, Bool.false_eq_true, if_false]

theorem attempt_of_untold {fault : Failure} (again : IsRetried isRetried (call state).1)
    (untold : nextWait backoff failures drawn = .error fault) :
    attempt backoff isRetried call (left + 1) failures drawn state =
      ⟨.error fault, 1, [], (call state).2⟩ := by
  rcases again with ⟨failure, answered, worth⟩
  rw [attempt.eq_def]
  simp only [answered, worth, untold, Bool.not_true, Bool.false_eq_true, if_false]

/-- A run that comes behind some waits, with a call in front of each of them. -/
def Run.behind (run : Run S A) (waits : List Quantity) : Run S A :=
  ⟨run.result, waits.length + run.calls, waits ++ run.waits, run.state⟩

/-- As long as calls fail in a way worth retrying and the waits can be told, a run goes on. -/
theorem attempt_behind (left : Nat) {made : Nat} {waits : List Quantity}
    (again : forall earlier, earlier < made -> IsRetried isRetried (answer call state earlier))
    (told : AreTold backoff randoms made waits) :
    Exists fun drawn => AreLeft backoff randoms drawn made ∧
      attempt backoff isRetried call (left + made) 0 randoms state =
        (attempt backoff isRetried call left made drawn (after call state made)).behind waits := by
  induction made generalizing left waits with
  | zero =>
      cases List.map_eq_nil_iff.mp told
      refine ⟨randoms, fun _ => rfl, ?_⟩
      simp only [Run.behind, after, List.length_nil, List.nil_append, Nat.zero_add, Nat.add_zero]
  | succ made inductionHypothesis =>
      rw [AreTold, List.range_succ, List.map_append, List.map_eq_append_iff] at told
      rcases told with ⟨earlier, single, rfl, told, last⟩
      rcases List.map_eq_singleton_iff.mp last with ⟨wait, rfl, next⟩
      rcases inductionHypothesis (left + 1) (fun other less => again other (Nat.lt_succ_of_lt less))
        told with ⟨drawn, areLeft, goesOn⟩
      refine ⟨_, areLeft.next, ?_⟩
      rw [show left + (made + 1) = left + 1 + made from Nat.add_right_comm left made 1, goesOn,
        attempt_of_wait (again made (Nat.lt_succ_self made)) (areLeft.nextWait_eq.trans next.symm)]
      simp only [Run.behind, after, List.length_append, List.length_singleton, List.append_assoc,
        List.singleton_append, Nat.add_assoc, Nat.add_comm 1]

/-- Up to its last call a run makes every call, with a wait after each but the last. -/
theorem attempt_of_endsAfter {retries made : Nat} {waits : List Quantity}
    (ends : EndsAfter retries isRetried call state made)
    (told : AreTold backoff randoms made waits) :
    attempt backoff isRetried call retries 0 randoms state =
      ⟨answer call state made, made + 1, waits, after call state (made + 1)⟩ := by
  rcases Nat.exists_eq_add_of_le' ends.within with ⟨left, rfl⟩
  have last : left = 0 ∨ ¬IsRetried isRetried (answer call state made) :=
    ends.last.imp_left fun all => by omega
  rcases attempt_behind left ends.before told with ⟨drawn, -, goesOn⟩
  rw [goesOn, attempt_of_last last, Run.behind, told.length_eq, List.append_nil]
  rfl

/-- A wait that cannot be told ends a run, which has neither called nor waited since. -/
theorem attempt_of_untoldAfter (left : Nat) {made : Nat} {waits : List Quantity} {fault : Failure}
    (again : forall earlier, earlier ≤ made -> IsRetried isRetried (answer call state earlier))
    (told : AreTold backoff randoms made waits)
    (untold : waitAfter backoff randoms made = .error fault) :
    attempt backoff isRetried call (left + 1 + made) 0 randoms state =
      ⟨.error fault, made + 1, waits, after call state (made + 1)⟩ := by
  rcases attempt_behind (left + 1) (fun earlier less => again earlier (Nat.le_of_lt less)) told with
    ⟨drawn, areLeft, goesOn⟩
  rw [goesOn, attempt_of_untold (again made (Nat.le_refl made))
    (areLeft.nextWait_eq.trans untold), Run.behind, told.length_eq, List.append_nil]
  rfl

/-! ## Runs -/

/-- Calls that are answered as written down, and all alike from there on. -/
def follow (later : A) : List (Except Failure A) -> Except Failure A × List (Except Failure A)
  | [] => (.ok later, [])
  | answer :: rest => (answer, rest)

theorem answer_follow (later : A) (script : List (Except Failure A)) (made : Nat) :
    answer (follow later) script made = script[made]?.getD (.ok later) := by
  have left : after (follow later) script made = script.drop made := by
    induction made with
    | zero => rfl
    | succ made inductionHypothesis =>
        rw [after, inductionHypothesis, List.drop_add_one_eq_tail_drop]
        cases script.drop made <;> rfl
  rw [answer, left, ← List.head?_drop]
  cases script.drop made <;> rfl

end Retry

namespace Sample

/-- A failure worth retrying. -/
def refused : Failure := .plain .connection "refused"

/-- Delays that begin with a second and double, up to a minute. -/
def patience : Backoff := ⟨.real 1.0, .real 60.0, Backoff.doubling, false⟩

/-- Whole delays of a length that no double comes near. -/
def eternity : Backoff := ⟨.whole (Number.tenTo 400), .whole (Number.tenTo 400), .whole 2, false⟩

end Sample

namespace Retry

open Sample

theorem delay_eternity (random : Float) :
    eternity.delay (.whole 1) random = .ok (.whole (Number.tenTo 400)) := by
  rw [eternity]
  generalize (Number.tenTo 400 : Int) = n
  have grown : n * Int.pow 2 0 = n := Int.mul_one n
  have bounded : (Quantity.whole n).least (.whole n) = .whole n := by
    rw [Quantity.least, Quantity.lt_irrefl, if_neg Bool.false_ne_true]
  calc Backoff.delay ⟨.whole n, .whole n, .whole 2, false⟩ (.whole 1) random
      = .ok ((Quantity.whole (n * Int.pow 2 0)).least (.whole n)) := rfl
    _ = .ok (.whole n) := by rw [grown, bounded]

end Retry
end Triage
