import Triage.Proofs.DryRun

namespace Triage

/-!
# Tickets over the cap

A turn lists the open tickets and takes on as many of the first ones as its cap allows.  The others
are counted as deferred, but nothing is kept of them: the next turn lists the tickets anew and again
takes on the first ones.  As long as the tickets stay as they are, all turns take on the same, and
those over the cap are taken on by none, however many turns there are.
-/

open Triage.Cycle (Turn underCap overCap)
open Rules (activeAmong)

namespace Cycle

variable {S : Type} {base : Desk S}

/-- The tickets that a turn takes on; a turn that cannot fetch takes on none. -/
def Turn.taken (turn : Turn S) (base : Desk S) : List Ticket :=
  let fetched := ((fetch (turn.desk base) turn.pace.cap).perform (turn.fetching base)).1
  (fetched.map Prod.snd).toOption.getD []

/-- A turn takes on the tickets under its cap. -/
theorem Turn.taken_eq {turn : Turn S} {rules : List Rule} {tickets : List Ticket}
    (read : (turn.readings base).1 = .ok (rules, tickets)) :
    turn.taken base = underCap turn.pace.cap tickets := by
  rcases @perform_fetch S (turn.desk base) rules tickets (turn.fetching base)
    (turn.readings base).2 turn.pace.cap (Prod.ext read rfl) with ⟨scheduler, fetched, _⟩
  rw [Turn.taken, fetched]
  rfl

theorem underCap_eq_take {cap : Int} (positive : 1 ≤ cap) (tickets : List Ticket) :
    underCap cap tickets = tickets.take cap.toNat := by
  rw [underCap_eq, Tickets.firstOf, if_neg (by omega)]

/-- Of tickets that are listed once, those behind the first ones are not among them. -/
theorem all_in_take_iff {tickets : List Ticket} (once : tickets.Nodup) {cap : Int}
    (positive : 1 ≤ cap) :
    (forall ticket, ticket ∈ tickets -> ticket ∈ tickets.take cap.toNat) ↔
      tickets.length ≤ cap := by
  constructor
  · intro all
    have behind : tickets.drop cap.toNat = [] := by
      rw [List.eq_nil_iff_forall_not_mem]
      intro ticket later
      exact List.disjoint_take_drop once (Nat.le_refl _) (all ticket (List.mem_of_mem_drop later))
        later
    have few := List.drop_eq_nil_iff.mp behind
    omega
  · intro few ticket listed
    rw [List.take_of_length_le (by omega)]
    exact listed

end Cycle

namespace Engine

variable {S : Type} {engine : Engine} {part : Part S World} {store : Tickets.Store S}

/-- A turn that reads its rules and tickets, under some cap and on some stock of tickets. -/
structure TakesFrom (engine : Engine) (part : Part S World) (store : Tickets.Store S)
    (stock : Tickets.Shelf × Option (List Database.TicketRow)) (cap : Int) (turn : Turn S) :
    Prop where
  ready : engine.IsReady (part.get turn.state)
  stock_eq : (part.get turn.state).stock = stock
  cap_eq : turn.pace.cap = cap
  reads : Exists fun rules => Exists fun tickets =>
    (turn.readings (engine.deskIn part store)).1 = .ok (rules, tickets)

/-- A turn takes on the first of the listed tickets, and counts the others as deferred. -/
theorem TakesFrom.takes_first {stock : Tickets.Shelf × Option (List Database.TicketRow)}
    {cap : Int} {turn : Turn S} (takes : engine.TakesFrom part store stock cap turn)
    (hampers : engine.Hampers part store) (lawful : part.IsLawful) (positive : 1 ≤ cap) :
    Exists fun tickets =>
      engine.home.listing engine.vocabulary.closedStatuses none stock = .ok tickets ∧
      tickets.Nodup ∧
      turn.taken (engine.deskIn part store) = tickets.take cap.toNat ∧
      Exists fun report => (turn.outcome (engine.deskIn part store)).1 = .ok report ∧
        report.aborted = false ∧ (tickets.length : Int) - cap ≤ report.ticketsDeferred := by
  rcases takes.reads with ⟨rules, tickets, read⟩
  rcases hampers.passes lawful turn takes.ready read with ⟨pieces, report, passes⟩
  have listed := hampers.listing_of_readings lawful takes.ready.calm read
  rw [takes.stock_eq] at listed
  refine ⟨tickets, listed, passes.nodup.of_map _, ?_, report, passes.answered, passes.aborted_eq,
    ?_⟩
  · rw [Cycle.Turn.taken_eq read, takes.cap_eq, Cycle.underCap_eq_take positive]
  · have exceeds : (tickets.length : Int) - cap ≤ overCap cap tickets := by
      unfold overCap
      split <;> omega
    have begun := passes.jobs.length_le
    have deferred := passes.deferred_eq
    rw [List.length_map] at begun
    rw [takes.cap_eq] at begun deferred
    omega

/--
As long as the tickets stay as they are, all turns under one cap take on the same ones, the first
that are listed.  However many turns there are, a ticket over the cap is taken on by none of them,
although each counts it as deferred; together they take on all tickets only if these are not more
than the cap to begin with.
-/
theorem Hampers.takes_the_same_tickets (hampers : engine.Hampers part store)
    (lawful : part.IsLawful) {stock : Tickets.Shelf × Option (List Database.TicketRow)} {cap : Int}
    (positive : 1 ≤ cap) {turns : List (Turn S)} (some_ : turns ≠ [])
    (unchanged : forall turn, turn ∈ turns -> engine.TakesFrom part store stock cap turn) :
    Exists fun tickets =>
      engine.home.listing engine.vocabulary.closedStatuses none stock = .ok tickets ∧
      (forall turn, turn ∈ turns ->
        turn.taken (engine.deskIn part store) = tickets.take cap.toNat ∧
        Exists fun report => (turn.outcome (engine.deskIn part store)).1 = .ok report ∧
          report.aborted = false ∧ (tickets.length : Int) - cap ≤ report.ticketsDeferred) ∧
      (forall ticket, ticket ∈ tickets.drop cap.toNat -> forall turn, turn ∈ turns ->
        ticket ∉ turn.taken (engine.deskIn part store)) ∧
      ((forall ticket, ticket ∈ tickets -> Exists fun turn => turn ∈ turns ∧
          ticket ∈ turn.taken (engine.deskIn part store)) ↔ tickets.length ≤ cap) := by
  rcases List.exists_mem_of_ne_nil turns some_ with ⟨first, among⟩
  rcases (unchanged first among).takes_first hampers lawful positive with
    ⟨tickets, listed, once, taken, _⟩
  have each : forall turn, turn ∈ turns ->
      turn.taken (engine.deskIn part store) = tickets.take cap.toNat ∧
      Exists fun report => (turn.outcome (engine.deskIn part store)).1 = .ok report ∧
        report.aborted = false ∧ (tickets.length : Int) - cap ≤ report.ticketsDeferred := by
    intro turn member
    rcases (unchanged turn member).takes_first hampers lawful positive with
      ⟨others, listed_, _, taken_, reported⟩
    have same : others = tickets := Except.ok.inj (listed_.symm.trans listed)
    exact ⟨same ▸ taken_, same ▸ reported⟩
  refine ⟨tickets, listed, each, ?_, ?_⟩
  · intro ticket later turn member inside
    rw [(each turn member).1] at inside
    exact List.disjoint_take_drop once (Nat.le_refl _) inside later
  · rw [<- Cycle.all_in_take_iff once positive]
    constructor
    · intro all ticket member
      rcases all ticket member with ⟨turn, one, inside⟩
      exact (each turn one).1 ▸ inside
    · intro all ticket member
      exact ⟨first, among, taken ▸ all ticket member⟩

end Engine

/-! ## Two tickets and room for one -/

namespace Sample

/-- A second ticket, listed behind the first. -/
def scanner : Ticket := { ticket with id := "2", subject := "Scanner" }

/-- A world with two open tickets and no rules. -/
def backlog : World := .beginning noon [] [ticket, scanner]

/-- A turn that takes on one ticket at most. -/
def narrow (state : World) : Turn World :=
  { turn state with pace := { (turn state).pace with cap := 1 } }

theorem listing_backlog : engine.home.listing engine.vocabulary.closedStatuses none backlog.stock =
    .ok [ticket, scanner] := by
  have isOpen : [ticket, scanner].filter
      (Tickets.Shelf.isOpen engine.vocabulary.closedStatuses) = [ticket, scanner] := by decide
  have sorted : [ticket, scanner].Pairwise fun a b => (Tickets.Shelf.order a b).isLE = true :=
    List.pairwise_pair.mpr (by decide)
  have listed : Tickets.Shelf.listOpen engine.vocabulary.closedStatuses none [ticket, scanner] =
      [ticket, scanner] := by
    simp only [Tickets.Shelf.listOpen, isOpen, List.mergeSort_of_pairwise sorted]
  exact congrArg Except.ok listed

theorem isReady_backlog : engine.IsReady backlog := by
  refine Engine.isReady_beginning rfl rfl [] ⟨by decide, ?_⟩
  intro other member
  rcases List.mem_pair.mp member with rfl | rfl <;> rfl

/-- Without rules a narrow turn leaves the tickets as they are, and the next one begins there. -/
theorem narrow_takes {state : World} (ready : engine.IsReady state)
    (stock : state.stock = backlog.stock) (noRules : activeAmong state.ruleRows = .ok []) :
    engine.TakesFrom (Part.whole World) engine.tickets backlog.stock 1 (narrow state) ∧
      engine.IsReady ((narrow state).after engine.desk) ∧
      ((narrow state).after engine.desk).stock = backlog.stock ∧
      activeAmong ((narrow state).after engine.desk).ruleRows = .ok [] := by
  have read := @Engine.readings_in_memory engine rfl (narrow state) ready.calm [] noRules
  rcases (Engine.tickets_hampers engine).passes Part.whole_isLawful (narrow state) ready read with
    ⟨pieces, report, passes⟩
  have idle : pieces = [] := by
    rw [List.eq_nil_iff_forall_not_mem]
    intro piece member
    have job := passes.jobs.subset (List.mem_map_of_mem member)
    rcases List.exists_mem_of_ne_nil _ (Cycle.mem_jobsOf.mp job).2.1 with ⟨rule, fires⟩
    exact List.not_mem_nil (List.mem_filter.mp (Matching.mem_firing.mp fires).1).1
  have chain := passes.chain
  rw [idle] at chain
  cases chain with
  | nil alike =>
      rcases alike ready.calm with ⟨_, _, same, _, noted⟩
      rcases Rules.activeAmong_noted noted noRules with ⟨later, active, unexecuted⟩
      have none_ : later = [] := List.map_eq_nil_iff.mp unexecuted
      exact ⟨⟨ready, stock, rfl, [], _, read⟩, ready.alike alike, same.trans stock, none_ ▸ active⟩

/-- The turn that follows a narrow turn on the two tickets. -/
def narrowAgain : Turn World := narrow ((narrow backlog).after engine.desk)

/-- Both turns take on from the same tickets, and leave them as they are. -/
theorem narrow_turns_take :
    engine.TakesFrom (Part.whole World) engine.tickets backlog.stock 1 (narrow backlog) ∧
      engine.TakesFrom (Part.whole World) engine.tickets backlog.stock 1 narrowAgain ∧
      (narrowAgain.after engine.desk).stock = backlog.stock := by
  have noRules : activeAmong backlog.ruleRows = .ok [] :=
    @Engine.activeAmong_beginning noon [] [ticket, scanner] nofun nofun nofun .nil
  rcases narrow_takes isReady_backlog rfl noRules with ⟨first, ready, stock, later⟩
  rcases narrow_takes ready stock later with ⟨second, _, still, _⟩
  exact ⟨first, second, still⟩

/-- Both turns take on the first ticket, and the second ticket is never taken on. -/
theorem both_narrow_turns_take_the_same :
    ((narrow backlog).taken engine.desk = [ticket] ∧ narrowAgain.taken engine.desk = [ticket]) ∧
      scanner ∉ (narrow backlog).taken engine.desk ∧ scanner ∉ narrowAgain.taken engine.desk := by
  rcases narrow_turns_take with ⟨first, second, _⟩
  have unchanged : forall turn, turn ∈ [narrow backlog, narrowAgain] ->
      engine.TakesFrom (Part.whole World) engine.tickets backlog.stock 1 turn := by
    intro turn member
    rcases List.mem_pair.mp member with rfl | rfl
    · exact first
    · exact second
  rcases (Engine.tickets_hampers engine).takes_the_same_tickets Part.whole_isLawful (by decide)
    (List.cons_ne_nil _ _) unchanged with ⟨tickets, listed, taken, never, _⟩
  rw [listing_backlog] at listed
  cases listed
  have first_ : narrow backlog ∈ [narrow backlog, narrowAgain] := List.mem_cons_self
  have again : narrowAgain ∈ [narrow backlog, narrowAgain] := List.mem_of_mem_getLast? rfl
  have behind : scanner ∈ [ticket, scanner].drop (1 : Int).toNat := List.mem_cons_self
  exact ⟨⟨(taken _ first_).1, (taken _ again).1⟩, never scanner behind _ first_,
    never scanner behind _ again⟩

/-- With room for one of two open tickets, two turns in a row on tickets that nobody changes do not
take on both: the second ticket is left over by either. -/
theorem two_turns_leave_a_ticket_over :
    engine.home.listing engine.vocabulary.closedStatuses none (narrow backlog).state.stock =
        .ok [ticket, scanner] ∧
      narrowAgain.state = (narrow backlog).after engine.desk ∧
      narrowAgain.state.stock = (narrow backlog).state.stock ∧
      (narrowAgain.after engine.desk).stock = (narrow backlog).state.stock ∧
      (narrow backlog).pace.cap = 1 ∧ narrowAgain.pace.cap = 1 ∧
      ¬scanner ∈ (narrow backlog).taken engine.desk ++ narrowAgain.taken engine.desk := by
  rcases narrow_turns_take with ⟨first, second, still⟩
  have takes {turn : Turn World}
      (from_ : engine.TakesFrom (Part.whole World) engine.tickets backlog.stock 1 turn) :
      turn.taken engine.desk = [ticket] := by
    rcases from_.takes_first (Engine.tickets_hampers engine) Part.whole_isLawful (by decide) with
      ⟨tickets, listed, _, taken, _⟩
    rw [listing_backlog] at listed
    cases listed
    exact taken
  refine ⟨listing_backlog, rfl, second.stock_eq, still, rfl, rfl, ?_⟩
  rw [takes first, takes second]
  decide

end Sample
end Triage
