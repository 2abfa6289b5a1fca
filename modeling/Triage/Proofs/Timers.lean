import Triage.Metrics
import Triage.Proofs.Delays

namespace Triage

/-!
# Windows of timers

A timer keeps a window of the durations that were recorded under its key.  Each call looks at the
durations of one key and leaves the others alone, so the window is that of the calls under this key,
however those under other keys come in between: the latest durations, as many as the window is wide.
A window of width zero is the exception, since cutting off all but the last none cuts off nothing:
it keeps whatever is recorded.

A summary tells of each window how many durations it has, the least, the greatest and their mean.
-/

/-! ## The least and the greatest -/

/-- Going through items and changing to whatever comes before the one at hand leads to one of them
that none comes before. -/
theorem foldl_before {A : Type} (before : A -> A -> Bool) (irrefl : forall a, before a a = false)
    (trans : forall a b c, before a b = true -> before b c = true -> before a c = true)
    (first : A) (rest : List A) :
    let chosen := rest.foldl (fun a b => if before b a then b else a) first
    chosen ∈ first :: rest ∧ forall item, item ∈ first :: rest -> before item chosen = false := by
  induction rest using List.reverseRecOn with
  | nil =>
      refine ⟨List.mem_singleton_self first, fun item inside => ?_⟩
      cases List.mem_singleton.mp inside
      exact irrefl first
  | append_singleton rest next inductionHypothesis =>
      rcases inductionHypothesis with ⟨inside, none⟩
      rw [List.foldl_append, List.foldl_cons, List.foldl_nil, ← List.cons_append]
      generalize rest.foldl _ first = chosen at inside none ⊢
      cases earlier : before next chosen with
      | true =>
          rw [if_pos rfl]
          refine ⟨List.mem_append_right _ (List.mem_singleton_self next), fun item member => ?_⟩
          rcases List.mem_append.mp member with seen | last
          · refine Bool.eq_false_iff.mpr fun sooner => ?_
            have apart := none item seen
            rw [trans item next chosen sooner earlier] at apart
            cases apart
          · cases List.mem_singleton.mp last
            exact irrefl next
      | false =>
          rw [if_neg Bool.false_ne_true]
          refine ⟨List.mem_append_left _ inside, fun item member => ?_⟩
          rcases List.mem_append.mp member with seen | last
          · exact none item seen
          · cases List.mem_singleton.mp last
            exact earlier

namespace Quantity

variable {a b c : Quantity}

theorem lt_trans (first : a.lt b = true) (second : b.lt c = true) : a.lt c = true := by
  rcases lt_iff.mp first with ⟨p, q, left, _, _⟩
  rcases lt_iff.mp second with ⟨_, r, _, right, _⟩
  refine lt_of_le_eq_false right left (Bool.eq_false_iff.mpr fun back => ?_)
  have around := le_trans (le_of_lt second) back
  rw [le_eq_false_of_lt first] at around
  cases around

/-- The least of quantities is one of them that none of them lies below. -/
theorem foldl_least (first : Quantity) (rest : List Quantity) :
    rest.foldl least first ∈ first :: rest ∧
      forall item, item ∈ first :: rest -> item.lt (rest.foldl least first) = false :=
  foldl_before lt lt_irrefl (fun _ _ _ => lt_trans) first rest

/-- The greatest of quantities is one of them that lies below none of them. -/
theorem foldl_greatest (first : Quantity) (rest : List Quantity) :
    rest.foldl greatest first ∈ first :: rest ∧
      forall item, item ∈ first :: rest -> (rest.foldl greatest first).lt item = false :=
  foldl_before (fun a b : Quantity => b.lt a) lt_irrefl (fun _ _ _ one two => lt_trans two one)
    first rest

end Quantity

/-! ## Tables of metrics -/

namespace Metrics

section Tables

variable {A : Type} {table : List (String × A)} {key other : String} {value : A}

/-- Replacing the entries of a key is seen under this key only. -/
theorem find_replaced (table : List (String × A)) (key other : String) (value : A) :
    find (table.map fun entry => if entry.1 == key then (key, value) else entry) other =
      if other = key then (find table key).map fun _ => value else find table other := by
  rw [find, find, find]
  induction table with
  | nil => simp
  | cons entry rest inductionHypothesis =>
      rcases entry with ⟨name, held⟩
      by_cases same : name = key
      · subst same
        by_cases here : other = name
        · simp [here]
        · have apart : (other == name) = false := beq_false_of_ne here
          simp only [here, if_false] at inductionHypothesis
          simp only [List.map_cons, beq_self_eq_true, if_true, List.lookup_cons, apart, here,
            if_false]
          exact inductionHypothesis
      · have different : (name == key) = false := beq_false_of_ne same
        have apart : (key == name) = false := beq_false_of_ne (Ne.symm same)
        by_cases here : other = name
        · subst here
          simp [same]
        · have distant : (other == name) = false := beq_false_of_ne here
          simp only [List.map_cons, different, Bool.false_eq_true, if_false, List.lookup_cons,
            apart, distant]
          exact inductionHypothesis

theorem find_append (table : List (String × A)) (key other : String) (value : A) :
    find (table ++ [(key, value)]) other =
      (find table other).or (if other = key then some value else none) := by
  rw [find, find, List.lookup_append]
  by_cases here : other = key
  · simp [here]
  · have apart : (other == key) = false := beq_false_of_ne here
    simp [here, apart, List.lookup_cons]

theorem any_iff_find : (table.any fun entry => entry.1 == key) = (find table key).isSome := by
  rw [find]
  induction table with
  | nil => rfl
  | cons entry rest inductionHypothesis =>
      rcases entry with ⟨name, held⟩
      rw [List.any_cons, inductionHypothesis, List.lookup_cons, Bool.beq_comm]
      cases key == name <;> rfl

/-- An entry is found under its key, and the others as before. -/
theorem find_put (table : List (String × A)) (key other : String) (value : A) :
    find (put table key value) other = if other = key then some value else find table other := by
  rw [put, any_iff_find]
  cases known : find table key with
  | some held =>
      rw [Option.isSome_some, if_pos rfl, find_replaced, known]
      rfl
  | none =>
      rw [Option.isSome_none, if_neg Bool.false_ne_true, find_append]
      by_cases here : other = key
      · rw [here, known, Option.none_or]
      · rw [if_neg here, if_neg here, Option.or_none]

/-- An entry of a table is the one that was put into it, or was there under another key. -/
theorem mem_put {entry : String × A} (inside : entry ∈ put table key value) :
    entry = (key, value) ∨ entry ∈ table ∧ entry.1 ≠ key := by
  rw [put] at inside
  split at inside
  · rcases List.mem_map.mp inside with ⟨before, known, same⟩
    by_cases here : before.1 = key
    · rw [here, beq_self_eq_true, if_pos rfl] at same
      exact .inl same.symm
    · rw [beq_false_of_ne here, if_neg Bool.false_ne_true] at same
      cases same
      exact .inr ⟨known, here⟩
  · next unknown =>
    rcases List.mem_append.mp inside with known | last
    · refine .inr ⟨known, fun here => unknown (List.any_eq_true.mpr ⟨entry, known, ?_⟩)⟩
      rw [here, beq_self_eq_true]
    · exact .inl (List.mem_singleton.mp last)

end Tables

/-! ## Windows -/

section Windows

variable {A : Type} {count : Nat} {items : List A} {item : A}

/-- The last items, or all of them if there are no more. -/
def latest (count : Nat) (items : List A) : List A := items.drop (items.length - count)

theorem length_latest : (latest count items).length = min items.length count := by
  rw [latest, List.length_drop]
  omega

theorem latest_of_le (few : items.length ≤ count) : latest count items = items := by
  rw [latest, Nat.sub_eq_zero_of_le few, List.drop_zero]

/-- What is behind the last items does not depend on those in front of them. -/
theorem latest_append : latest count (latest count items ++ [item]) =
    latest count (items ++ [item]) := by
  have within : items.length - count ≤ items.length := Nat.sub_le ..
  rw [latest, latest, latest, ← List.drop_append_of_le_length within, List.drop_drop,
    List.length_drop, List.length_append, List.length_singleton]
  congr 1
  omega

end Windows

variable {window : Nat} {durations : List Quantity} {duration : Quantity}

/-- What a window leaves of durations: the latest, but all of them if its width is zero. -/
def windowed (window : Nat) (durations : List Quantity) : List Quantity :=
  if window = 0 then durations else latest window durations

theorem trimmed_eq (window : Nat) (durations : List Quantity) :
    trimmed window durations = windowed window durations := by
  unfold trimmed windowed
  by_cases none : window = 0
  · rw [none, if_pos rfl]
    split
    · rfl
    · exact List.drop_zero
  · rw [if_neg none]
    split
    · next few => exact (latest_of_le (Int.ofNat_le.mp few)).symm
    · rw [if_pos (by omega), Int.toNat_natCast, latest]

theorem windowed_append :
    windowed window (windowed window durations ++ [duration]) =
      windowed window (durations ++ [duration]) := by
  unfold windowed
  split
  · rfl
  · exact latest_append

theorem windowed_ne_nil (some : durations ≠ []) : windowed window durations ≠ [] := by
  have long := List.length_pos_iff.mpr some
  unfold windowed
  split
  · exact some
  · refine List.ne_nil_of_length_pos ?_
    rw [length_latest]
    omega

theorem windowed_sublist (window : Nat) (durations : List Quantity) :
    (windowed window durations).Sublist durations := by
  unfold windowed
  split
  · exact List.Sublist.refl durations
  · exact List.drop_sublist _ durations

/-! ## Calls -/

/-- A call that records a duration. -/
structure Timing where
  name : String
  tags : List Tag
  duration : Quantity

/-- The key that a call records its duration under. -/
def Timing.key (call : Timing) : String := Metrics.key call.name call.tags

/-- Metrics after a call. -/
def record (metrics : Metrics) (call : Timing) : Metrics :=
  metrics.timing call.name call.duration call.tags

/-- Metrics after calls in a row. -/
def recordAll (metrics : Metrics) (calls : List Timing) : Metrics := calls.foldl record metrics

/-- The durations that calls record under a key, in their order. -/
def recorded (key : String) (calls : List Timing) : List Quantity :=
  (calls.filter fun call => call.key == key).map Timing.duration

/-- The durations that are kept under a key. -/
def samples (metrics : Metrics) (key : String) : List Quantity := (find metrics.timers key).getD []

theorem recorded_append (key : String) (calls : List Timing) (call : Timing) :
    recorded key (calls ++ [call]) =
      recorded key calls ++ if call.key = key then [call.duration] else [] := by
  rw [recorded, List.filter_append, List.map_append]
  by_cases same : call.key = key
  · rw [if_pos same, List.filter_singleton, same, beq_self_eq_true]
    rfl
  · rw [if_neg same, List.filter_singleton, beq_false_of_ne same]
    rfl

theorem length_recorded_le (key : String) (calls : List Timing) :
    (recorded key calls).length ≤ calls.length := by
  rw [recorded, List.length_map]
  exact List.length_filter_le _ calls

theorem mem_recorded {key : String} {calls : List Timing} (inside : duration ∈ recorded key calls) :
    Exists fun call => call ∈ calls ∧ call.duration = duration := by
  rcases List.mem_map.mp inside with ⟨call, made, same⟩
  exact ⟨call, List.mem_of_mem_filter made, same⟩

/-- Metrics after some calls and nothing else: each timer has the window of its own calls. -/
structure HasWindows (window : Nat) (calls : List Timing) (metrics : Metrics) : Prop where
  width : metrics.window = window
  counters : metrics.counters = []
  gauges : metrics.gauges = []
  samples : forall key, metrics.samples key = windowed window (recorded key calls)
  timers : forall entry, entry ∈ metrics.timers ->
    entry.2 = windowed window (recorded entry.1 calls) ∧ entry.2 ≠ []

theorem HasWindows.step {calls : List Timing} {metrics : Metrics}
    (has : HasWindows window calls metrics) (call : Timing) :
    HasWindows window (calls ++ [call]) (metrics.record call) := by
  have own : trimmed metrics.window (metrics.samples call.key ++ [call.duration]) =
      windowed window (recorded call.key (calls ++ [call])) := by
    rw [has.width, trimmed_eq, has.samples, windowed_append, recorded_append, if_pos rfl]
  have timers : (metrics.record call).timers =
      put metrics.timers call.key (windowed window (recorded call.key (calls ++ [call]))) :=
    congrArg (put metrics.timers call.key) own
  have apart {key : String} (other : key ≠ call.key) :
      recorded key (calls ++ [call]) = recorded key calls := by
    rw [recorded_append, if_neg (Ne.symm other), List.append_nil]
  refine ⟨has.width, has.counters, has.gauges, fun key => ?_, fun entry inside => ?_⟩
  · rw [Metrics.samples, timers, find_put]
    by_cases same : key = call.key
    · rw [if_pos same, same, Option.getD_some]
    · rw [if_neg same, apart same]
      exact has.samples key
  · rw [timers] at inside
    rcases mem_put inside with rfl | ⟨known, other⟩
    · refine ⟨rfl, windowed_ne_nil ?_⟩
      rw [recorded_append, if_pos rfl]
      exact List.append_ne_nil_of_right_ne_nil _ (List.cons_ne_nil _ _)
    · rw [apart other]
      exact has.timers entry known

namespace HasWindows

variable {calls : List Timing} {metrics : Metrics}

theorem few (has : HasWindows window calls metrics) (few : calls.length < 2 ^ 63) (key : String) :
    (metrics.samples key).length < 2 ^ 64 := by
  rw [has.samples]
  have kept := (windowed_sublist window (recorded key calls)).length_le
  exact Nat.lt_of_le_of_lt (kept.trans (length_recorded_le key calls))
    (Nat.lt_trans few (by decide))

theorem reals (has : HasWindows window calls metrics)
    (reals : forall call, call ∈ calls -> Exists fun x => call.duration = .real x) {key : String}
    (inside : duration ∈ metrics.samples key) : Exists fun x => duration = .real x := by
  rw [has.samples] at inside
  rcases mem_recorded ((windowed_sublist window _).subset inside) with ⟨call, made, rfl⟩
  exact reals call made

/-- The entries of the table are the windows that have durations. -/
theorem entry_eq (has : HasWindows window calls metrics) {entry : String × List Quantity}
    (inside : entry ∈ metrics.timers) : entry.2 = metrics.samples entry.1 ∧ entry.2 ≠ [] :=
  ⟨(has.timers entry inside).1.trans (has.samples entry.1).symm, (has.timers entry inside).2⟩

theorem find_eq_none_iff (has : HasWindows window calls metrics) {key : String} :
    find metrics.timers key = none <-> metrics.samples key = [] := by
  rw [Metrics.samples]
  cases found : find metrics.timers key with
  | none => exact iff_of_true rfl rfl
  | some durations =>
      rcases List.lookup_eq_some_iff.mp found with ⟨front, behind, split, -⟩
      have inside : (key, durations) ∈ metrics.timers := by
        rw [split]
        exact List.mem_append_right front List.mem_cons_self
      exact iff_of_false (nomatch ·) (has.entry_eq inside).2

end HasWindows

/-- Calls in a row leave each timer with the window of its own calls. -/
theorem hasWindows_recordAll (window : Nat) (calls : List Timing) :
    HasWindows window calls ((empty window).recordAll calls) := by
  induction calls using List.reverseRecOn with
  | nil =>
      refine ⟨rfl, rfl, rfl, fun key => ?_, nofun⟩
      unfold windowed
      split
      · rfl
      · exact (latest_of_le (Nat.zero_le _)).symm
  | append_singleton calls call inductionHypothesis =>
      rw [recordAll, List.foldl_append]
      exact inductionHypothesis.step call

/-! ## Percentiles -/

/-- A share of durations has its place among them. -/
theorem percentileOf_of_isNormal {percentile : Quantity} {least most : Int}
    (some : durations ≠ []) (few : durations.length < 2 ^ 64)
    (share : Number.IsNormal (percentile.toFloat?.getD 0.0 / 100.0) least most)
    (large : -1000 ≤ least) (small : most ≤ 900) :
    Exists fun duration => percentileOf durations percentile = .ok duration := by
  have long := List.length_pos_iff.mpr some
  have count := Number.isNormal_ofNat (Nat.ne_of_gt long) few
  rcases share.mul count (by omega) (by omega) with ⟨value, shaped, sign, width, -⟩
  have above : 0 ≤ value.scaled.truncate := by
    have positive := Quantity.numerator_pos_iff.mpr ⟨sign, Number.pos_of_log2 width⟩
    exact Int.tdiv_nonneg (Int.le_of_lt positive) (Int.natCast_nonneg _)
  have found : percentilePlace percentile durations.length =
      .ok (min value.scaled.truncate ((durations.length : Int) - 1)) := by
    rw [percentilePlace, shaped]
    rfl
  have filled : durations.isEmpty = false := List.isEmpty_eq_false_iff.mpr some
  generalize placed : min value.scaled.truncate ((durations.length : Int) - 1) = place at found
  have front : ¬place < 0 := by omega
  have inside : place.toNat < (ascending durations).length := by
    rw [ascending, List.length_mergeSort]
    omega
  refine ⟨(ascending durations)[place.toNat], ?_⟩
  rw [percentileOf, filled, if_neg Bool.false_ne_true, found, Result.ok_bind]
  simp only [if_neg front, List.getElem?_eq_getElem inside]
  rfl

theorem isNormal_half :
    Number.IsNormal ((Quantity.whole 50).toFloat?.getD 0.0 / 100.0) (-53) (-53) :=
  ⟨⟨false, Number.twoTo 52, -53⟩, by decide +kernel, rfl, by decide +kernel, Int.le_refl _,
    Int.le_refl _⟩

theorem isNormal_most :
    Number.IsNormal ((Quantity.whole 95).toFloat?.getD 0.0 / 100.0) (-53) (-53) :=
  ⟨⟨false, 0x1E666666666666, -53⟩, by decide +kernel, rfl, by decide +kernel, Int.le_refl _,
    Int.le_refl _⟩

/-! ## Means -/

/-- Doubles have a sum, and so a mean. -/
theorem mean_of_reals (some : durations ≠ [])
    (reals : forall duration, duration ∈ durations -> Exists fun x => duration = .real x) :
    Exists fun middle => mean durations = .ok middle := by
  have later : forall (rest : List Quantity) (x : Float),
      (forall duration, duration ∈ rest -> Exists fun x => duration = .real x) ->
        Exists fun y => rest.foldlM sum (.real x) = .ok (.real y) := by
    intro rest
    induction rest with
    | nil => exact fun x _ => ⟨x, rfl⟩
    | cons duration rest inductionHypothesis =>
        intro x each
        rcases each duration List.mem_cons_self with ⟨y, rfl⟩
        exact inductionHypothesis (x + y) fun other inside =>
          each other (List.mem_cons_of_mem _ inside)
  cases durations with
  | nil => exact absurd rfl some
  | cons first rest =>
      rcases reals first List.mem_cons_self with ⟨x, rfl⟩
      have begun : Exists fun z => sum (.whole 0) (.real x) = .ok (.real z) := by
        have zero : (Quantity.whole 0).toFloat? = Option.some (Number.ofDecimal 0 0) := by
          rw [Quantity.toFloat?, Number.ofInt?, if_pos (by decide +kernel)]
          rfl
        exact ⟨Number.ofDecimal 0 0 + x, by
          simp only [sum, Quantity.add?, Quantity.combine?, zero]
          rfl⟩
      rcases begun with ⟨z, begun⟩
      rcases later rest z fun other inside => reals other (List.mem_cons_of_mem _ inside) with
        ⟨y, summed⟩
      refine ⟨.real (y / Float.ofNat (Quantity.real x :: rest).length), ?_⟩
      rw [mean, total, List.foldlM_cons, begun, Result.ok_bind, summed]
      rfl

/-! ## Summaries -/

/-- What a summary tells of durations: how many there are, one that none lies below, one that lies
below none, and their mean. -/
structure IsSummary (durations : List Quantity) (value : Value) : Prop where
  count : value.get? "count" = some (.int durations.length)
  least : Exists fun least => value.get? "min" = some (.number least) ∧ least ∈ durations ∧
    forall duration, duration ∈ durations -> duration.lt least = false
  greatest : Exists fun greatest => value.get? "max" = some (.number greatest) ∧
    greatest ∈ durations ∧ forall duration, duration ∈ durations -> greatest.lt duration = false
  mean : Exists fun middle => value.get? "mean" = some (.number middle) ∧
    mean durations = .ok middle

theorem timerValue_isSummary {first : Quantity} {rest : List Quantity} {middle : Quantity}
    (few : (first :: rest).length < 2 ^ 64) (isMean : mean (first :: rest) = .ok middle) :
    Exists fun value => timerValue first rest = .ok value ∧ IsSummary (first :: rest) value := by
  have some : first :: rest ≠ [] := List.cons_ne_nil first rest
  rcases percentileOf_of_isNormal some few isNormal_half (by decide) (by decide) with ⟨half, halved⟩
  rcases percentileOf_of_isNormal some few isNormal_most (by decide) (by decide) with ⟨most, mostly⟩
  refine ⟨.record [("count", .int (first :: rest).length),
      ("min", .number (rest.foldl Quantity.least first)),
      ("max", .number (rest.foldl Quantity.greatest first)),
      ("mean", .number middle), ("p50", .number half), ("p95", .number most)], ?_, rfl,
    ⟨_, rfl, Quantity.foldl_least first rest⟩, ⟨_, rfl, Quantity.foldl_greatest first rest⟩,
    ⟨middle, rfl, isMean⟩⟩
  rw [timerValue, isMean, halved, mostly]
  rfl

/-- A table of durations that have means has a summary under each of its keys. -/
theorem timerValues_areSummaries {table : List (String × List Quantity)}
    (each : forall entry, entry ∈ table -> entry.2 ≠ [] ∧ entry.2.length < 2 ^ 64 ∧
      Exists fun middle => mean entry.2 = .ok middle) :
    Exists fun values => timerValues table = .ok values ∧ forall key,
      match find table key with
      | none => (Value.record values).get? key = none
      | some durations => Exists fun value =>
          (Value.record values).get? key = some value ∧ IsSummary durations value := by
  induction table with
  | nil => exact ⟨[], rfl, fun _ => rfl⟩
  | cons entry table inductionHypothesis =>
      rcases inductionHypothesis fun other inside => each other (List.mem_cons_of_mem entry inside)
        with ⟨values, summed, others⟩
      rcases each entry List.mem_cons_self with ⟨filled, few, middle, isMean⟩
      rcases entry with ⟨name, _ | ⟨first, rest⟩⟩
      · exact absurd rfl filled
      rcases timerValue_isSummary few isMean with ⟨value, told, isSummary⟩
      refine ⟨(name, value) :: values, ?_, fun key => ?_⟩
      · rw [timerValues, told, summed]
        rfl
      · rw [find, List.lookup_cons, Value.get?_record_cons, Bool.beq_comm]
        cases name == key with
        | true => exact ⟨value, rfl, isSummary⟩
        | false => exact others key

/-- Whatever calls record durations, in whatever order and under whatever keys: the durations that
are kept under a key are the latest that were recorded under it, as many as the window is wide, or
all of them if its width is zero.  A summary has an entry for each key with durations and for no
other, which counts these durations and has the least and the greatest of them and their mean.
There is a summary as soon as they have means, and doubles always have one. -/
theorem keeps_windows (window : Nat) (calls : List Timing) (few : calls.length < 2 ^ 63) :
    let metrics := (empty window).recordAll calls
    (forall key, metrics.samples key =
      if window = 0 then recorded key calls else latest window (recorded key calls)) ∧
    ((forall call, call ∈ calls -> Exists fun x => call.duration = .real x) ->
      forall key, metrics.samples key ≠ [] ->
        Exists fun middle => mean (metrics.samples key) = .ok middle) ∧
    ((forall key, metrics.samples key ≠ [] ->
        Exists fun middle => mean (metrics.samples key) = .ok middle) ->
      Exists fun timers => metrics.toValue = .ok (.record
          [("counters", .record []), ("gauges", .record []), ("timers", timers)]) ∧
        forall key, (metrics.samples key = [] -> timers.get? key = none) ∧
          (metrics.samples key ≠ [] -> Exists fun value =>
            timers.get? key = some value ∧ IsSummary (metrics.samples key) value)) := by
  intro metrics
  have has : HasWindows window calls metrics := hasWindows_recordAll window calls
  refine ⟨has.samples, fun reals key some => mean_of_reals some fun _ => has.reals reals,
    fun means => ?_⟩
  have each : forall entry, entry ∈ metrics.timers -> entry.2 ≠ [] ∧ entry.2.length < 2 ^ 64 ∧
      Exists fun middle => mean entry.2 = .ok middle := by
    intro entry inside
    rcases has.entry_eq inside with ⟨kept, some⟩
    rw [kept] at some ⊢
    exact ⟨some, has.few few entry.1, means entry.1 some⟩
  rcases timerValues_areSummaries each with ⟨values, told, under⟩
  refine ⟨.record values, ?_, fun key => ?_⟩
  · rw [toValue, has.counters, has.gauges, told]
    rfl
  · have entry := under key
    cases found : find metrics.timers key with
    | none =>
        have none := has.find_eq_none_iff.mp found
        rw [found] at entry
        exact ⟨fun _ => entry, fun some => absurd none some⟩
    | some durations =>
        have kept : metrics.samples key = durations := by rw [samples, found, Option.getD_some]
        rw [found] at entry
        have some : durations ≠ [] := fun none => by
          rw [has.find_eq_none_iff.mpr (kept.trans none)] at found
          cases found
        rw [kept]
        exact ⟨fun none => absurd none some, fun _ => entry⟩

end Metrics

namespace Sample

/-- Durations under one key, with one under another key in between. -/
def laps : List Metrics.Timing :=
  [⟨"lap", [], .real 1.0⟩, ⟨"lap", [], .real 2.0⟩, ⟨"rest", [], .real 9.0⟩, ⟨"lap", [], .real 3.0⟩]

/-- Two whole durations under one key. -/
def steps : List Metrics.Timing := [⟨"step", [], .whole 5⟩, ⟨"step", [], .whole 6⟩]

end Sample

namespace Metrics

open Sample

/-- A window of width two keeps the last two of three durations, and the summary is about them. -/
theorem keeps_windows_of_sample : laps.length < 2 ^ 63 ∧
    let metrics := (empty (2 : Nat)).recordAll laps
    metrics.samples "lap" = [.real 2.0, .real 3.0] ∧
    Exists fun timers => metrics.toValue = .ok (.record
        [("counters", .record []), ("gauges", .record []), ("timers", timers)]) ∧
      Exists fun value => timers.get? "lap" = some value ∧
        IsSummary [.real 2.0, .real 3.0] value := by
  have few : laps.length < 2 ^ 63 := by decide
  rcases keeps_windows 2 laps few with ⟨windows, means, summary⟩
  have reals : forall call, call ∈ laps -> Exists fun x => call.duration = .real x := by
    simp [laps]
  rcases summary (means reals) with ⟨timers, told, under⟩
  have entry := (under "lap").2
  have two : ((empty (2 : Nat)).recordAll laps).samples "lap" = [.real 2.0, .real 3.0] :=
    (windows "lap").trans rfl
  rw [two] at entry
  exact ⟨few, two, timers, told, entry (List.cons_ne_nil _ _)⟩

/-- A window of width zero keeps both of two durations, and not the last none of them. -/
theorem no_width_keeps_all :
    ((empty 0).recordAll steps).samples "step" = [.whole 5, .whole 6] ∧
    recorded "step" steps = [.whole 5, .whole 6] ∧ latest 0 (recorded "step" steps) = [] :=
  ⟨rfl, rfl, rfl⟩

end Metrics
end Triage
