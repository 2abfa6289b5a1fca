import Mathlib.Data.List.Nodup
import Triage.Proofs.Checked
import Triage.Tickets.Memory

namespace Triage

/-!
# Tickets that are set and tickets on a shelf

Setting aspects of a ticket changes the texts stored for them and nothing else.  On a shelf with
each id once, the ticket of an id is found wherever it stands, and a change of one ticket is seen
under its id only.
-/

/-- A stamp in UTC is that of its instant. -/
theorem Stamp.eq_ofInstant {stamp : Stamp} (utc : stamp.offset = some 0) :
    stamp = .ofInstant stamp.instant := by
  rcases stamp with ⟨wall, offset⟩
  simp only at utc
  subst utc
  exact congrArg Stamp.ofInstant (Stamp.instant_ofInstant wall).symm

namespace Aspect

theorem ofName?_name (aspect : Aspect) : ofName? aspect.name = some aspect := by
  cases aspect <;> decide

theorem toAttribute_injective {a b : Aspect} (same : a.toAttribute = b.toAttribute) : a = b := by
  cases a <;> cases b <;> first | rfl | cases same

end Aspect

namespace Ticket

variable (ticket : Ticket)

/-- What no update of aspects touches. -/
def frame : String × String × Option String × Option String × Instant :=
  (ticket.id, ticket.subject, ticket.company, ticket.category, ticket.createdAt)

@[simp]
theorem frame_set (aspect : Aspect) (value : Option String) :
    (ticket.set aspect value).frame = ticket.frame := by
  cases aspect <;> rfl

@[simp]
theorem updatedAt_set (aspect : Aspect) (value : Option String) :
    (ticket.set aspect value).updatedAt = ticket.updatedAt := by
  cases aspect <;> rfl

theorem setAll_cons (value : Aspect × Option String) (rest : List (Aspect × Option String)) :
    ticket.setAll (value :: rest) = (ticket.set value.1 value.2).setAll rest := rfl

variable {ticket}

@[simp]
theorem frame_setAll (values : List (Aspect × Option String)) :
    (ticket.setAll values).frame = ticket.frame := by
  induction values generalizing ticket with
  | nil => rfl
  | cons value rest inductionHypothesis => rw [setAll_cons, inductionHypothesis, frame_set]

@[simp]
theorem updatedAt_setAll (values : List (Aspect × Option String)) :
    (ticket.setAll values).updatedAt = ticket.updatedAt := by
  induction values generalizing ticket with
  | nil => rfl
  | cons value rest inductionHypothesis => rw [setAll_cons, inductionHypothesis, updatedAt_set]

/-- What is not among the updates stays. -/
theorem stored_setAll_of_not_mem {values : List (Aspect × Option String)} {aspect : Aspect}
    (absent : forall value, value ∈ values -> value.1 ≠ aspect) :
    (ticket.setAll values).stored aspect.toAttribute = ticket.stored aspect.toAttribute := by
  induction values generalizing ticket with
  | nil => rfl
  | cons value rest inductionHypothesis =>
      have other := absent value List.mem_cons_self
      have later := @inductionHypothesis (ticket.set value.1 value.2)
        fun next member => absent next (List.mem_cons_of_mem value member)
      rw [setAll_cons, later, stored_set, if_neg]
      intro same
      exact other (Aspect.toAttribute_injective same)

/-- What is among the updates once is stored as they say. -/
theorem stored_setAll_of_mem {values : List (Aspect × Option String)}
    (once : (values.map Prod.fst).Nodup) {aspect : Aspect} {content : Option String}
    (member : (aspect, content) ∈ values) :
    (ticket.setAll values).stored aspect.toAttribute = content := by
  induction values generalizing ticket with
  | nil => cases member
  | cons value rest inductionHypothesis =>
      rw [List.map_cons, List.nodup_cons] at once
      rw [setAll_cons]
      rcases List.mem_cons.mp member with first | later
      · subst first
        have absent : forall next, next ∈ rest -> next.1 ≠ aspect := by
          intro next inside same
          exact once.1 (List.mem_map.mpr ⟨next, inside, same⟩)
        rw [stored_setAll_of_not_mem absent, stored_set, if_pos rfl]
      · exact inductionHypothesis once.2 later

end Ticket

namespace Tickets

namespace Updates

/-- Aspects have known names, so updates of aspects are never refused. -/
theorem read_ofAspects (values : List (Aspect × String)) :
    (ofAspects values).read = .ok (values.map fun value => (value.1, some value.2)) := by
  have known : (ofAspects values).unknown = [] := by
    rw [unknown, ofAspects, List.filter_eq_nil_iff]
    intro name member
    simp only [List.map_map, List.mem_map, Function.comp_apply] at member
    rcases member with ⟨value, _, rfl⟩
    rw [Aspect.ofName?_name]
    exact Bool.not_eq_true _ ▸ rfl
  have named : ((fun update : String × Option String =>
      (Aspect.ofName? update.1).map fun aspect => (aspect, update.2)) ∘
        fun value : Aspect × String => (value.1.name, some value.2)) =
      some ∘ fun value => (value.1, some value.2) := by
    funext value
    simp only [Function.comp_apply, Aspect.ofName?_name, Option.map_some]
  rw [read, known]
  simp only [List.isEmpty_nil, if_true, ofAspects, List.filterMap_map]
  rw [named, List.filterMap_eq_map]

end Updates

namespace Shelf

/-- Each id once, and every time of a last change in UTC. -/
structure IsSound (shelf : Shelf) : Prop where
  once : (shelf.map Ticket.id).Nodup
  utc : forall ticket, ticket ∈ shelf -> ticket.updatedAt.offset = some 0

variable {shelf : Shelf} {ticket : Ticket} {id : String}

theorem id_eq_of_find? (found : shelf.find? id = some ticket) : ticket.id = id := by
  have same := List.find?_some found
  exact beq_iff_eq.mp same

theorem mem_of_find? (found : shelf.find? id = some ticket) : ticket ∈ shelf :=
  List.mem_of_find?_eq_some found

/-- A ticket on the shelf is the ticket of its id. -/
theorem find?_of_mem (once : (shelf.map Ticket.id).Nodup) (member : ticket ∈ shelf) :
    shelf.find? ticket.id = some ticket := by
  induction shelf with
  | nil => cases member
  | cons first rest inductionHypothesis =>
      rw [List.map_cons, List.nodup_cons] at once
      rcases List.mem_cons.mp member with rfl | later
      · exact List.find?_cons_of_pos (beq_self_eq_true ticket.id)
      · have different : (first.id == ticket.id) = false := by
          apply beq_false_of_ne
          intro same
          exact once.1 (same ▸ List.mem_map_of_mem later)
        rw [Shelf.find?, List.find?_cons, different]
        exact inductionHypothesis once.2 later

theorem updated_id (now : Stamp) (values : List (Aspect × Option String)) :
    (updated now values ticket).id = ticket.id :=
  congrArg Prod.fst (@Ticket.frame_setAll ticket values)

/-- Replacing a known ticket changes what is found under its id. -/
theorem find?_put (known : shelf.any (fun other => other.id == ticket.id) = true) :
    (shelf.put ticket).find? id = if id = ticket.id then some ticket else shelf.find? id := by
  rw [put, if_pos known, Shelf.find?, List.find?_map]
  by_cases same : id = ticket.id
  · subst same
    have test : ((fun other : Ticket => other.id == ticket.id) ∘
        fun other => if other.id == ticket.id then ticket else other) =
          fun other => other.id == ticket.id := by
      funext other
      by_cases equal : other.id = ticket.id <;> simp [equal]
    rcases List.any_eq_true.mp known with ⟨other, member, equal⟩
    rw [test, if_pos rfl]
    cases found : List.find? (fun other => other.id == ticket.id) shelf with
    | none => exact False.elim (List.find?_eq_none.mp found other member equal)
    | some first => rw [Option.map_some, if_pos (List.find?_some found)]
  · have test : ((fun other : Ticket => other.id == id) ∘
        fun other => if other.id == ticket.id then ticket else other) =
          fun other => other.id == id := by
      funext other
      by_cases equal : other.id = ticket.id
      · simp [equal]
      · simp [equal]
    rw [test, if_neg same, Shelf.find?]
    cases found : List.find? (fun other => other.id == id) shelf with
    | none => rfl
    | some first =>
        have test := List.find?_some found
        have first_id : first.id = id := beq_iff_eq.mp test
        have different : ¬(first.id == ticket.id) = true := by
          intro equal
          exact same (first_id.symm.trans (beq_iff_eq.mp equal))
        rw [Option.map_some, if_neg different]

/-- The shelf stays sound when a known ticket is replaced by one that was changed in UTC. -/
theorem IsSound.put (sound : shelf.IsSound)
    (known : shelf.any (fun other => other.id == ticket.id) = true)
    (utc : ticket.updatedAt.offset = some 0) : (shelf.put ticket).IsSound := by
  rw [Shelf.put, if_pos known]
  constructor
  · have ids : (shelf.map fun other => if other.id == ticket.id then ticket else other).map
        Ticket.id = shelf.map Ticket.id := by
      rw [List.map_map]
      apply List.map_congr_left
      intro other _
      by_cases equal : other.id = ticket.id <;> simp [equal]
    rw [ids]
    exact sound.once
  · intro other member
    rcases List.mem_map.mp member with ⟨before, inside, rfl⟩
    split
    · exact utc
    · exact sound.utc before inside

/-- A change by somebody who read the ticket just now is written. -/
theorem change_spec (sound : shelf.IsSound) (found : shelf.find? id = some ticket) (now : Stamp)
    (values : List (Aspect × Option String)) :
    shelf.change now id values (some ticket.updatedAt.instant) =
      (true, shelf.put (updated now values ticket)) := by
  have utc := Stamp.eq_ofInstant (sound.utc ticket (mem_of_find? found))
  have expected : isAsExpected (some ticket.updatedAt.instant) ticket = true := by
    rw [isAsExpected, <- utc, Stamp.same]
    cases ticket.updatedAt.offset <;> simp
  rw [change, found]
  simp only [expected, if_true]

theorem any_of_find? (found : shelf.find? id = some ticket) :
    shelf.any (fun other => other.id == ticket.id) = true :=
  List.any_eq_true.mpr ⟨ticket, mem_of_find? found, beq_self_eq_true ticket.id⟩

/-- The open tickets of the shelf are listed, each under an id of its own. -/
theorem listOpen_spec (sound : shelf.IsSound) (closed : List String) :
    ((shelf.listOpen closed none).map Ticket.id).Nodup ∧
      forall ticket, ticket ∈ shelf.listOpen closed none ↔
        ticket ∈ shelf ∧ isOpen closed ticket = true := by
  have same : (shelf.listOpen closed none).Perm (shelf.filter (isOpen closed)) :=
    List.mergeSort_perm _ _
  constructor
  · have part : ((shelf.filter (isOpen closed)).map Ticket.id).Sublist (shelf.map Ticket.id) :=
      List.filter_sublist.map Ticket.id
    exact (same.map Ticket.id).nodup_iff.mpr (sound.once.sublist part)
  · exact fun ticket => same.mem_iff.trans List.mem_filter

end Shelf
end Tickets
end Triage
