import Mathlib.Logic.Function.Basic
import Triage.Proofs.CrewFollowed

namespace Triage

/-!
# Numbers that are drawn once

The workers of a crew draw numbers from one counter, and put up signs with these numbers where all
of them can be seen.  As long as nobody sets the counter back, a number belongs to the job for which
it was drawn.  So if every job puts up signs with its own numbers only, and these about its own
ticket, then no sign about another ticket has a number of the job, in whatever order the workers
go on.

That numbers belong to jobs is kept in no state.  It is said by a table that grows with the work.
-/

open Database (Cell)

/-- What there is to see of numbers in the states in which work can go on. -/
structure Register (S : Type) where
  kind : S -> Prop
  /-- The number that was drawn last. -/
  count : S -> Nat
  /-- Whether there is a sign about something with a number. -/
  signs : S -> Cell -> Nat -> Prop

namespace Register

variable {S : Type} (register : Register S)

/-- Work goes on, the counter is not set back, and new signs are about something and have some
numbers. -/
structure Moves (about : Cell) (own : Nat -> Prop) (before after : S) : Prop where
  kind : register.kind after
  count : register.count before ≤ register.count after
  signs : forall other n, register.signs after other n ->
    register.signs before other n ∨ other = about ∧ own n

/-- Some numbers together with those that were drawn between two states. -/
def joined (own : Nat -> Prop) (before after : S) (n : Nat) : Prop :=
  own n ∨ register.count before < n ∧ n ≤ register.count after

end Register

/-! ## Steps of one job -/

/-- From any state in which some numbers were drawn, a script puts up signs with these and with what
it draws, and no others; what it ends with is as it should be. -/
def Script.Owns {S A : Type} (register : Register S) (about : Cell)
    (ends : (Nat -> Prop) -> Except Failure A -> Prop) : Script S A -> (Nat -> Prop) -> Prop
  | .done result, own => ends own result
  | .step act next, own => forall state, register.kind state ->
      (forall n, own n -> n ≤ register.count state) ->
      register.Moves about own state (act.perform state).2 ∧
        (next (act.perform state).1).Owns register about ends
          (register.joined own state (act.perform state).2)

namespace Script.Owns

variable {S A B : Type} {register : Register S} {about : Cell} {own : Nat -> Prop}
  {ends : (Nat -> Prop) -> Except Failure A -> Prop}
  {later : (Nat -> Prop) -> Except Failure B -> Prop}

theorem one {act : Act S A} (owns : forall state, register.kind state ->
    (forall n, own n -> n ≤ register.count state) ->
    register.Moves about own state (act.perform state).2 ∧
      ends (register.joined own state (act.perform state).2) (act.perform state).1) :
    (Script.one act).Owns register about ends own := owns

theorem andThen {script : Script S A} {next : Except Failure A -> Script S B}
    (owns : script.Owns register about ends own)
    (goesOn : forall more result, ends more result ->
      (next result).Owns register about later more) :
    (script.andThen next).Owns register about later own := by
  induction script generalizing own with
  | done result => exact goesOn own result owns
  | step act steps inductionHypothesis =>
      intro state is drawn
      rcases owns state is drawn with ⟨moves, rest⟩
      exact ⟨moves, inductionHypothesis _ rest⟩

/-- A script that surely answers goes on from its answer. -/
theorem bindSurely {good : (Nat -> Prop) -> A -> Prop} {script : Script S A}
    {next : A -> Script S B}
    (owns : script.Owns register about (fun more => Script.Surely (good more)) own)
    (goesOn : forall more a, good more a -> (next a).Owns register about later more) :
    (script.bind next).Owns register about later own := by
  refine owns.andThen fun more result ended => ?_
  rcases ended with ⟨a, rfl, is⟩
  exact goesOn more a is

theorem weaken {wider : (Nat -> Prop) -> Except Failure A -> Prop} {script : Script S A}
    (owns : script.Owns register about ends own)
    (widens : forall more result, ends more result -> wider more result) :
    script.Owns register about wider own := by
  induction script generalizing own with
  | done result => exact widens own result owns
  | step act next inductionHypothesis =>
      intro state is drawn
      rcases owns state is drawn with ⟨moves, rest⟩
      exact ⟨moves, inductionHypothesis _ rest⟩

/-- What a script is known to end with for another reason, it also ends with here. -/
theorem both {along : S -> S -> Prop} {ended : Except Failure A -> Prop} {script : Script S A}
    (owns : script.Owns register about ends own) (keeps : script.Keeps register.kind along ended) :
    script.Owns register about (fun more result => ends more result ∧ ended result) own := by
  induction script generalizing own with
  | done result => exact ⟨owns, keeps⟩
  | step act next inductionHypothesis =>
      intro state is drawn
      rcases owns state is drawn with ⟨moves, rest⟩
      exact ⟨moves, inductionHypothesis _ rest (keeps state is).2.2⟩

/-- What puts up no signs owns what it draws, and has whatever it had before. -/
theorem of_keeps {along : S -> S -> Prop} {ended : Except Failure A -> Prop}
    {script : Script S A} (keeps : script.Keeps register.kind along ended)
    (bare : forall before after, along before after ->
      register.count before ≤ register.count after ∧
        forall other n, register.signs after other n -> register.signs before other n) :
    script.Owns register about (fun more result => (forall n, own n -> more n) ∧ ended result)
      own := by
  suffices owns : forall more, (forall n, own n -> more n) ->
      script.Owns register about (fun more result => (forall n, own n -> more n) ∧ ended result)
        more from owns own fun _ has => has
  induction script with
  | done result => exact fun more grown => ⟨grown, keeps⟩
  | step act next inductionHypothesis =>
      intro more grown state is _
      rcases keeps state is with ⟨next, moved, rest⟩
      rcases bare _ _ moved with ⟨count, same⟩
      exact ⟨⟨next, count, fun other n sign => .inl (same other n sign)⟩,
        inductionHypothesis _ rest _ fun n has => .inl (grown n has)⟩

/-- After what surely answers and puts up no signs, a script goes on with at least what it had. -/
theorem bindKept {along : S -> S -> Prop} {good : A -> Prop} {script : Script S A}
    {next : A -> Script S B} (keeps : script.Keeps register.kind along (Script.Surely good))
    (bare : forall before after, along before after ->
      register.count before ≤ register.count after ∧
        forall other n, register.signs after other n -> register.signs before other n)
    (goesOn : forall more a, (forall n, own n -> more n) -> good a ->
      (next a).Owns register about later more) :
    (script.bind next).Owns register about later own := by
  refine (of_keeps keeps bare).andThen fun more result ended => ?_
  rcases ended with ⟨grown, a, rfl, is⟩
  exact goesOn more a grown is

end Script.Owns

/-! ## Jobs of a crew -/

namespace Cycle.Crew

variable {S : Type} {toDo : Job -> Script S Done} {jobs : List Job} {first crew next : Crew S}
  {register : Register S} {holds : (Nat -> Prop) -> Done -> Prop} {origin : S}
  {owns : String -> Nat -> Prop}

/-- The numbers that were drawn by a crew are shared among its jobs, named by their tickets. -/
structure Shares (register : Register S) (holds : (Nat -> Prop) -> Done -> Prop) (origin : S)
    (owns : String -> Nat -> Prop) (crew : Crew S) : Prop where
  kind : register.kind crew.flow.world
  since : register.count origin ≤ register.count crew.flow.world
  drawn : forall id n, owns id n ->
    register.count origin < n ∧ n ≤ register.count crew.flow.world
  apart : forall one two n, owns one n -> owns two n -> one = two
  signs : forall about n, register.signs crew.flow.world about n ->
    register.signs origin about n ∨ Exists fun id => about = .text id ∧ owns id n
  busy : forall job rest, Member.busy job rest ∈ crew.members ->
    rest.Owns register (.text job.ticket.id) (fun own => Script.Surely (holds own))
      (owns job.ticket.id)
  done : forall job done, (job, done) ∈ crew.done -> holds (owns job.ticket.id) done

namespace Shares

section Replaced

variable {before after : List (Member S)} {member other : Member S}

/-- Who takes no step of a job draws nothing. -/
theorem idle (shares : crew.Shares register holds origin owns)
    (place : crew.members = before ++ member :: after)
    (fits : forall job rest, other = .busy job rest ->
      rest.Owns register (.text job.ticket.id) (fun own => Script.Surely (holds own))
        (owns job.ticket.id))
    {queue : List Job} {left : List (Job × Verdict)} {report : Report} :
    Shares register holds origin owns { crew with
      flow := { crew.flow with report }
      queue := queue
      members := before ++ other :: after
      left := left } := by
  refine ⟨shares.kind, shares.since, shares.drawn, shares.apart, shares.signs,
    fun job rest inside => ?_, shares.done⟩
  rcases mem_replaced_of place inside with equal | known
  · exact fits job rest equal.symm
  · exact shares.busy job rest known

end Replaced

section Works

variable (distinct : (jobs.map fun job => job.ticket.id).Nodup)

include distinct

/-- What a worker draws is given to the job for which it was drawn. -/
theorem move (shares : crew.Shares register holds origin owns) (accounts : Accounts jobs first crew)
    {before after : List (Member S)} {job : Job} {B : Type} {act : Act S B}
    {rest : Except Failure B -> Script S Done}
    (place : crew.members = before ++ .busy job (.step act rest) :: after) :
    Shares register holds origin
      (Function.update owns job.ticket.id (register.joined (owns job.ticket.id) crew.flow.world
        (act.perform crew.flow.world).2))
      { crew with
        flow := { crew.flow with world := (act.perform crew.flow.world).2 }
        members := before ++ .busy job (rest (act.perform crew.flow.world).1) :: after } := by
  have here : Member.busy job (.step act rest) ∈ crew.members :=
    place ▸ List.mem_append_right _ List.mem_cons_self
  rcases shares.busy job _ here crew.flow.world shares.kind
    fun n has => (shares.drawn _ n has).2 with ⟨moved, goesOn⟩
  have elsewhere {id : String} (different : id ≠ job.ticket.id) :
      Function.update owns job.ticket.id (register.joined (owns job.ticket.id) crew.flow.world
        (act.perform crew.flow.world).2) id = owns id := Function.update_of_ne different _ _
  have unlike {other : Job} (apart : other ∈ crew.done.map Prod.fst ∨
      other ∈ (before ++ after).flatMap Member.jobs) : other.ticket.id ≠ job.ticket.id :=
    accounts.unlike distinct place rfl apart
  -- A number of the job after the step is one that it had, or was drawn by nobody before.
  have cases_ {id : String} {n : Nat} (has : Function.update owns job.ticket.id
      (register.joined (owns job.ticket.id) crew.flow.world (act.perform crew.flow.world).2) id n) :
      owns id n ∨ id = job.ticket.id ∧ register.count crew.flow.world < n ∧
        n ≤ register.count (act.perform crew.flow.world).2 := by
    by_cases same : id = job.ticket.id
    · subst same
      rw [Function.update_self] at has
      exact has.imp_right fun drawn => ⟨rfl, drawn⟩
    · rw [elsewhere same] at has
      exact .inl has
  refine ⟨moved.kind, shares.since.trans moved.count, fun id n has => ?_,
    fun one two n here there => ?_, fun about n sign => ?_, fun other script inside => ?_,
    fun other done known => ?_⟩
  · rcases cases_ has with old | ⟨_, above, upTo⟩
    · exact ⟨(shares.drawn id n old).1, (shares.drawn id n old).2.trans moved.count⟩
    · exact ⟨Nat.lt_of_le_of_lt shares.since above, upTo⟩
  · rcases cases_ here with old | ⟨rfl, above, _⟩
    · rcases cases_ there with old_ | ⟨_, above, _⟩
      · exact shares.apart one two n old old_
      · exact absurd (shares.drawn one n old).2 (Nat.not_le_of_lt above)
    · rcases cases_ there with old | ⟨same, _⟩
      · exact absurd (shares.drawn two n old).2 (Nat.not_le_of_lt above)
      · exact same.symm
  · rcases moved.signs about n sign with old | ⟨rfl, own⟩
    · rcases shares.signs about n old with origin | ⟨id, named, has⟩
      · exact .inl origin
      · refine .inr ⟨id, named, ?_⟩
        by_cases same : id = job.ticket.id
        · subst same
          rw [Function.update_self]
          exact .inl has
        · rw [elsewhere same]
          exact has
    · refine .inr ⟨job.ticket.id, rfl, ?_⟩
      rw [Function.update_self]
      exact .inl own
  · have split : Member.busy other script = .busy job (rest (act.perform crew.flow.world).1) ∨
        Member.busy other script ∈ before ++ after := by
      rcases List.mem_append.mp inside with early | behind
      · exact .inr (List.mem_append_left _ early)
      · exact (List.mem_cons.mp behind).imp_right (List.mem_append_right _)
    rcases split with now | known
    · cases now
      rw [Function.update_self]
      exact goesOn
    · rw [elsewhere (unlike (.inr (List.mem_flatMap.mpr ⟨_, known, List.mem_singleton_self _⟩)))]
      refine shares.busy other script ?_
      rw [place]
      exact (List.mem_append.mp known).elim (List.mem_append_left _)
        fun behind => List.mem_append_right _ (List.mem_cons_of_mem _ behind)
  · rw [elsewhere (unlike (.inl (List.mem_map_of_mem known)))]
    exact shares.done other done known

omit distinct in
theorem finish (shares : crew.Shares register holds origin owns)
    {before after : List (Member S)} {job : Job} {done : Done}
    (place : crew.members = before ++ .busy job (.done (.ok done)) :: after) :
    Shares register holds origin owns { crew with
      members := before ++ .ready :: after
      done := crew.done ++ [(job, done)] } := by
  have here : Member.busy job (.done (.ok done)) ∈ crew.members :=
    place ▸ List.mem_append_right _ List.mem_cons_self
  refine ⟨shares.kind, shares.since, shares.drawn, shares.apart, shares.signs,
    fun other script inside => ?_, fun other ended known => ?_⟩
  · rcases mem_replaced_of place inside with now | known
    · cases now
    · exact shares.busy other script known
  · rcases List.mem_append.mp known with before_ | now
    · exact shares.done other ended before_
    · cases List.mem_singleton.mp now
      rcases shares.busy job _ here with ⟨_, same, is⟩
      cases same
      exact is

variable (begins : forall job own, (toDo job).Owns register (.text job.ticket.id)
  (fun own => Script.Surely (holds own)) own)

include begins

theorem step (shares : crew.Shares register holds origin owns) (accounts : Accounts jobs first crew)
    (step : Step toDo crew next) : Exists fun owns => next.Shares register holds origin owns := by
  rcases step with works | happens
  · cases works with
    | take place queue => exact ⟨owns, shares.idle place fun _ _ busy => by cases busy⟩
    | goHome place queue => exact ⟨owns, shares.idle place fun _ _ busy => by cases busy⟩
    | leave place kept => exact ⟨owns, shares.idle place fun _ _ busy => by cases busy⟩
    | begin place goes =>
        refine ⟨owns, shares.idle place fun job rest same => ?_⟩
        cases same
        exact begins _ _
    | move place => exact ⟨_, shares.move distinct accounts place⟩
    | finish place => exact ⟨owns, shares.finish place⟩
  · cases happens <;> exact ⟨owns, shares.kind, shares.since, shares.drawn, shares.apart,
      shares.signs, shares.busy, shares.done⟩

/-- Whatever a crew comes to, the numbers that it has drawn are shared among its jobs. -/
theorem reaches (shares : first.Shares register holds origin owns)
    (accounts : Accounts jobs first first) (reaches : first.Reaches toDo next) :
    Exists fun owns => next.Shares register holds origin owns := by
  induction reaches with
  | refl => exact ⟨owns, shares⟩
  | tail before step inductionHypothesis =>
      rcases inductionHypothesis with ⟨_, shares⟩
      exact shares.step distinct begins (accounts.reaches before) step

end Works

end Shares

/-- Before anybody has taken a job, nothing is shared. -/
theorem start_shares (workers : Int) (jobs : List Job) {flow : Flow S}
    (is : register.kind flow.world) :
    (start workers jobs flow).Shares register holds flow.world fun _ _ => False :=
  ⟨is, Nat.le_refl _, fun _ _ none => none.elim, fun _ _ _ none => none.elim,
    fun _ _ sign => .inl sign, fun _ _ inside => (nomatch List.eq_of_mem_replicate inside),
    fun _ _ inside => (nomatch inside)⟩

end Cycle.Crew
end Triage
