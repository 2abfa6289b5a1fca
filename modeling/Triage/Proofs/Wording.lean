import Triage.Proofs.Beginning
import Triage.Proofs.Checked
import Triage.Settings.Validation

namespace Triage

/-!
# What a template that was tried out says about tickets

Settings are refused if their template cannot be filled with some sample texts.  Filling it for a
ticket takes the same way through the template, but with other texts, and almost nothing on the way
depends on what the texts are: not which of them are named, nor the members of a text, nor how a
text is spelled out or set.

There are two exceptions.  A field may take a character out of the text that it names, and the text
may be too short for it.  And a layout may hold fields itself; then it is one thing for the sample and
another for the ticket.  Both end in faults for which there is the template of last resort, so that
there is a message in any case.
-/

namespace Template

open Layout (read)

/-! ## What comes out again -/

/-- What came out in a trial comes out again under a condition, and is related to what it was then;
without the condition there is a fault for which there is the template of last resort. -/
def ComesAgain {A : Type} (condition : Prop) (related : A -> A -> Prop)
    (trial result : Except Fault A) : Prop :=
  forall a, trial = .ok a -> (condition ∧ Exists fun b => result = .ok b ∧ related a b) ∨
    (¬condition ∧ Exists fun fault => result = .error fault ∧ fault.fallsBack = true)

namespace ComesAgain

variable {A B : Type} {P Q : Prop} {related : A -> A -> Prop} {alike : B -> B -> Prop}
  {trial result : Except Fault A}

theorem of_ok {a b : A} (same : related a b) : ComesAgain True related (.ok a) (.ok b) := by
  rintro _ ⟨⟩
  exact .inl ⟨trivial, b, rfl, same⟩

theorem of_eq (reflexive : forall a, related a a) (same : trial = result) :
    ComesAgain True related trial result := by
  rintro a rfl
  exact .inl ⟨trivial, a, same.symm, reflexive a⟩

theorem of_error {fault : Fault} : ComesAgain P related (.error fault) result := nofun

/-- A fault that is found in the trial as well does not come up again. -/
theorem past {stops : Prop} [Decidable stops] {fault : Fault}
    (again : ¬stops -> ComesAgain P related trial result) :
    ComesAgain P related (if stops then .error fault else trial)
      (if stops then .error fault else result) := by
  by_cases stop : stops
  · rw [if_pos stop]
    exact of_error
  · rw [if_neg stop, if_neg stop]
    exact again stop

theorem congr (again : ComesAgain P related trial result) (same : P <-> Q) :
    ComesAgain Q related trial result := propext same ▸ again

theorem weaken (again : ComesAgain P related trial result) {wider : A -> A -> Prop}
    (wide : forall a b, trial = .ok a -> related a b -> wider a b) :
    ComesAgain P wider trial result := by
  intro a tried
  rcases again a tried with ⟨holds, b, came, same⟩ | fails
  · exact .inl ⟨holds, b, came, wide a b tried same⟩
  · exact .inr fails

theorem bind (again : ComesAgain P related trial result) {next later : A -> Except Fault B}
    (goesOn : forall a b, trial = .ok a -> result = .ok b -> related a b ->
      ComesAgain Q alike (next a) (later b)) :
    ComesAgain (P ∧ Q) alike (trial >>= next) (result >>= later) := by
  intro c tried
  rcases Result.bind_eq_ok_iff.mp tried with ⟨a, first, then_⟩
  rcases again a first with ⟨holds, b, came, same⟩ | ⟨fails, fault, failed, back⟩
  · rw [came, Result.ok_bind]
    rcases goesOn a b first came same c then_ with ⟨also, rest⟩ | ⟨not_, rest⟩
    · exact .inl ⟨⟨holds, also⟩, rest⟩
    · exact .inr ⟨fun both => not_ both.2, rest⟩
  · rw [failed]
    exact .inr ⟨fun both => fails both.1, fault, rfl, back⟩

/-- What is the same in the trial does not matter for what comes after it. -/
theorem andThen {step : Except Fault B} {next later : B -> Except Fault A}
    (goesOn : forall b, ComesAgain P related (next b) (later b)) :
    ComesAgain P related (step >>= next) (step >>= later) := by
  cases step with
  | error fault => exact of_error
  | ok b => exact goesOn b

/-- A list comes out again if each of its items does. -/
theorem mapM {step twin : B -> Except Fault A} {condition : B -> Prop} {items : List B}
    (each : forall item, item ∈ items ->
      ComesAgain (condition item) related (step item) (twin item)) :
    ComesAgain (forall item, item ∈ items -> condition item) (List.Forall₂ related)
      (items.mapM step) (items.mapM twin) := by
  induction items with
  | nil => exact (of_ok .nil).congr ⟨fun _ => List.forall_mem_nil _, fun _ => trivial⟩
  | cons item rest inductionHypothesis =>
      rw [List.mapM_cons, List.mapM_cons, List.forall_mem_cons]
      refine (each item List.mem_cons_self).bind fun a b _ _ first => ?_
      have others := inductionHypothesis fun other member =>
        each other (List.mem_cons_of_mem item member)
      refine (others.bind (Q := True) fun as bs _ _ later => ?_).congr (and_iff_left trivial)
      exact of_ok (.cons first later)

end ComesAgain

/-! ## Paths -/

/-- What a path takes out of a text by its position, if it starts with that. -/
def firstItem? : List Char -> Option Nat
  | '[' :: rest => (numberOf (rest.takeWhile (· != ']'))).toOption.join
  | _ => none

/-- The name that a path starts with. -/
def nameIn (path : List Char) : List Char := path.takeWhile fun c => !beginsStep c

/-- The position that a path takes out of the text that it names. -/
def positionIn? (path : List Char) : Option Nat := firstItem? (path.drop (nameIn path).length)

/-- If a path takes a position out of the text that it names, the text is long enough. -/
def Reaches (fields : List (String × String)) (path : List Char) : Prop :=
  forall position, positionIn? path = some position -> forall text,
    fields.lookup (String.ofList (nameIn path)) = some text -> position < text.length

/-- Every text that can be named in a trial can be named again. -/
def Covers (fields sample : List (String × String)) : Prop :=
  forall key, (sample.lookup key).isSome = true -> (fields.lookup key).isSome = true

namespace Place

/-- Two places that no step can tell from each other. -/
inductive IsLike : Place -> Place -> Prop
  | same (place : Place) : IsLike place place
  | characters (c d : Char) : IsLike (text c.toString) (text d.toString)

/-- Two places that can be set alike. -/
inductive SetsLike : Place -> Place -> Prop
  | same (place : Place) : SetsLike place place
  | texts {s : String} (t : String) (some_ : s ≠ "") : SetsLike (text s) (text t)

variable {place other : Place}

theorem IsLike.setsLike (alike : place.IsLike other) : place.SetsLike other := by
  cases alike with
  | same => exact .same _
  | characters c d => exact .texts _ String.singleton_ne_empty

theorem member_text (s t name : String) : (text s).member name = (text t).member name := rfl

theorem IsLike.member (alike : place.IsLike other) (name : String) :
    ComesAgain True Eq (place.member name) (other.member name) := by
  cases alike <;> exact .of_eq (fun _ => rfl) rfl

/-- Of a single character there is the first item and no other. -/
theorem item_character (c : Char) (position : Nat) :
    (text c.toString).item (some position) =
      if position = 0 then .ok (text c.toString) else .error .itemRange := by
  have single : c.toString.toList = [c] := String.toList_singleton c
  simp only [item, single]
  cases position <;> rfl

theorem IsLike.item (alike : place.IsLike other) (number : Option Nat) :
    ComesAgain True IsLike (place.item number) (other.item number) := by
  cases alike with
  | same => exact .of_eq .same rfl
  | characters c d =>
      cases number with
      | none => exact @ComesAgain.of_error _ _ _ _ .itemName
      | some position =>
          rw [item_character, item_character]
          split
          · exact .of_ok (.characters c d)
          · exact .of_error

/-- A character that is there is taken, and beyond the end there is none. -/
theorem item_text (s t : String) (position : Nat) :
    ComesAgain (position < t.length) IsLike ((text s).item (some position))
      ((text t).item (some position)) := by
  intro found took
  rw [item] at took ⊢
  cases there : s.toList[position]? with
  | none =>
      rw [there] at took
      cases took
  | some c =>
      rw [there] at took
      cases took
      by_cases inside : position < t.length
      · have held : t.toList[position]? = some (t.toList.get ⟨position, inside⟩) :=
          List.getElem?_eq_getElem inside
        rw [held]
        exact .inl ⟨inside, _, rfl, .characters c _⟩
      · have missing : t.toList[position]? = none :=
          List.getElem?_eq_none (Nat.le_of_not_lt inside)
        rw [missing]
        exact .inr ⟨inside, _, rfl, rfl⟩

end Place

theorem walk_member (bound : Nat) (place : Place) (rest : List Char) :
    walk (bound + 1) place ('.' :: rest) =
      if (rest.takeWhile fun c => !beginsStep c).isEmpty = true then .error (.form .emptyStep)
      else place.member (String.ofList (rest.takeWhile fun c => !beginsStep c)) >>= fun next =>
        walk bound next (rest.drop (rest.takeWhile fun c => !beginsStep c).length) := by
  rw [walk]
  split <;> rfl

theorem walk_item (bound : Nat) (place : Place) (rest : List Char) :
    walk (bound + 1) place ('[' :: rest) =
      if (rest.takeWhile (· != ']')).length = rest.length then .error (.form .unclosedItem)
      else numberOf (rest.takeWhile (· != ']')) >>= fun number =>
        if (rest.takeWhile (· != ']')).isEmpty = true then .error (.form .emptyStep)
        else place.item number >>= fun next =>
          walk bound next (rest.drop ((rest.takeWhile (· != ']')).length + 1)) := by
  rw [walk]
  split
  · rfl
  · refine congrArg (numberOf _ >>= ·) (funext fun number => ?_)
    split <;> rfl

theorem walk_isLike (bound : Nat) {place other : Place} (alike : place.IsLike other)
    (cs : List Char) :
    ComesAgain True Place.IsLike (walk bound place cs) (walk bound other cs) := by
  induction bound generalizing place other cs with
  | zero => exact .of_ok alike
  | succ bound inductionHypothesis =>
      rcases cs with _ | ⟨c, rest⟩
      · exact .of_ok alike
      by_cases dot : c = '.'
      · subst dot
        rw [walk_member, walk_member]
        refine .past fun _ => ((alike.member _).bind fun next later _ _ same => ?_).congr
          (and_iff_left trivial)
        subst same
        exact inductionHypothesis (.same next) _
      by_cases bracket : c = '['
      · subst bracket
        rw [walk_item, walk_item]
        exact .past fun _ => .andThen fun number => .past fun _ =>
          ((alike.item number).bind fun next later _ _ same =>
            inductionHypothesis same _).congr (and_iff_left trivial)
      · have stuck : walk (bound + 1) place (c :: rest) = .error (.form .afterItem) := by
          rw [walk]
          · exact dot
          · exact bracket
        rw [stuck]
        exact .of_error

/-- From a text that is named nothing but its end is seen. -/
theorem walk_text {s : String} (some_ : s ≠ "") (t : String) {bound : Nat} {cs : List Char}
    (bounded : cs.length ≤ bound) :
    ComesAgain (forall position, firstItem? cs = some position -> position < t.length)
      Place.SetsLike (walk bound (.text s) cs) (walk bound (.text t) cs) := by
  have free {cs : List Char} (none_ : firstItem? cs = none) :
      True <-> forall position, firstItem? cs = some position -> position < t.length :=
    ⟨fun _ _ taken => (nomatch none_.symm.trans taken), fun _ => trivial⟩
  rcases bound with _ | bound
  · cases List.length_eq_zero_iff.mp (Nat.le_zero.mp bounded)
    exact (ComesAgain.of_ok (.texts t some_)).congr (free rfl)
  rcases cs with _ | ⟨c, rest⟩
  · exact (ComesAgain.of_ok (.texts t some_)).congr (free rfl)
  by_cases dot : c = '.'
  · subst dot
    rw [walk_member, walk_member, Place.member_text t s]
    exact (ComesAgain.of_eq Place.SetsLike.same rfl).congr (free rfl)
  by_cases bracket : c = '['
  · subst bracket
    rw [walk_item, walk_item]
    refine .past fun _ => ?_
    cases counted : numberOf (rest.takeWhile (· != ']')) with
    | error fault => exact .of_error
    | ok number =>
        refine .past fun _ => ?_
        cases number with
        | none => exact @ComesAgain.of_error _ _ _ _ .itemName
        | some position =>
            have first : firstItem? ('[' :: rest) = some position := by
              rw [firstItem?, counted]
              rfl
            refine ComesAgain.congr ((Place.item_text s t position).bind fun next later _ _ same =>
              (walk_isLike bound same _).weaken fun _ _ _ alike => alike.setsLike) ⟨?_, ?_⟩
            · rintro ⟨inside, _⟩ _ same
              cases first.symm.trans same
              exact inside
            · exact fun every => ⟨every position first, trivial⟩
  · have stuck : walk (bound + 1) (.text s) (c :: rest) = .error (.form .afterItem) := by
      rw [walk]
      · exact dot
      · exact bracket
    rw [stuck]
    exact .of_error

/-! ## Fields -/

section Fields

variable {fields sample : List (String × String)}

/-- The name that a path starts with is known again. -/
theorem start_again (covers : Covers fields sample) (name : List Char) :
    ComesAgain True (fun place other => Exists fun s => Exists fun t =>
      place = .text s ∧ other = .text t ∧ sample.lookup (String.ofList name) = some s ∧
        fields.lookup (String.ofList name) = some t) (start sample name) (start fields name) := by
  rw [start, start]
  cases empty : name.isEmpty with
  | true => exact .of_error
  | false =>
      cases counted : numberOf name with
      | error fault => exact .of_error
      | ok number =>
          cases number with
          | some position => exact .of_error
          | none =>
              cases found : sample.lookup (String.ofList name) with
              | none => exact .of_error
              | some s =>
                  rcases Option.isSome_iff_exists.mp
                    (covers _ (congrArg Option.isSome found)) with ⟨t, found_⟩
                  rw [found_]
                  exact .of_ok ⟨s, t, rfl, rfl, rfl, rfl⟩

/-- Where a path leads is set like where it led. -/
theorem follow_again (covers : Covers fields sample)
    (some_ : forall entry, entry ∈ sample -> entry.2 ≠ "") (path : List Char) :
    ComesAgain (Reaches fields path) Place.SetsLike (follow sample path) (follow fields path) := by
  have bounded : (path.drop (nameIn path).length).length ≤ path.length :=
    List.length_drop ▸ Nat.sub_le _ _
  rw [follow, follow]
  refine ComesAgain.congr ((start_again covers (nameIn path)).bind (Q := Reaches fields path)
    fun place other _ _ named => ?_) (and_iff_right trivial)
  rcases named with ⟨s, t, rfl, rfl, named, known⟩
  rcases List.lookup_eq_some_iff.mp named with ⟨front, later, same, _⟩
  have entry : (String.ofList (nameIn path), s) ∈ sample := same ▸ List.mem_append_cons_self
  refine (walk_text (some_ _ entry) t bounded).congr ⟨fun reaches position taken text found => ?_,
    fun reaches position taken => reaches position taken t known⟩
  cases known.symm.trans found
  exact reaches position taken

/-- However a place is spelled out, there is something to see. -/
theorem quotedWith_ne_empty (shown : Char -> Bool) (s : String) : Text.quotedWith shown s ≠ "" := by
  intro empty
  have characters := congrArg String.length empty
  rw [Text.quotedWith, String.length_append, String.length_append,
    String.length_empty] at characters
  have one : (Text.enclosingQuote s).toString.length = 1 := String.length_singleton
  omega

theorem convert_again {place other : Place} (alike : place.SetsLike other)
    (conversion : Option Char) :
    ComesAgain True Place.SetsLike (convert place conversion) (convert other conversion) := by
  cases alike with
  | same => exact .of_eq .same rfl
  | @texts s t some_ =>
      unfold convert
      split
      · exact .of_ok (.texts t some_)
      · exact .of_ok (.texts t some_)
      · exact .of_ok (.texts _ (quotedWith_ne_empty _ _))
      · exact .of_ok (.texts _ (quotedWith_ne_empty _ _))
      · exact .of_error

end Fields

/-! ## Layouts -/

namespace Layout

/-- A layout by which a text can be set. -/
def IsForTexts (cs : List Char) : Prop :=
  cs = [] ∨ Exists fun layout => read cs = .ok layout ∧ layout.checkText = .ok ()

/-- If there is a fault, then there is the template of last resort for it. -/
def FallsBack {A : Type} (result : Except Fault A) : Prop :=
  forall fault, result = .error fault -> fault.fallsBack = true

namespace FallsBack

variable {A B : Type}

theorem ok (a : A) : FallsBack (.ok a) := nofun

theorem form (form : Form) : FallsBack (.error (.form form) : Except Fault A) := by
  rintro _ ⟨⟩
  rfl

theorem bind {result : Except Fault A} {next : A -> Except Fault B} (first : FallsBack result)
    (later : forall a, FallsBack (next a)) : FallsBack (result >>= next) := by
  cases result with
  | error fault =>
      rintro _ ⟨⟩
      exact first fault rfl
  | ok a => exact later a

end FallsBack

theorem number_fallsBack (cs : List Char) : FallsBack (number cs) := by
  unfold number
  dsimp only
  split
  · exact .ok _
  · split
    · exact .form _
    · exact .ok _

theorem readSeparator_fallsBack (cs : List Char) : FallsBack (readSeparator cs) := by
  unfold readSeparator
  dsimp only
  split
  · exact .form _
  · exact .ok _

theorem readPrecision_fallsBack (cs : List Char) : FallsBack (readPrecision cs) := by
  unfold readPrecision
  split
  · refine (number_fallsBack _).bind fun found => ?_
    split
    · exact .form _
    · exact .ok _
  · exact .ok _

theorem read_fallsBack (cs : List Char) : FallsBack (read cs) := by
  unfold read
  dsimp only
  refine (number_fallsBack _).bind fun width => ?_
  refine (readSeparator_fallsBack _).bind fun separator => ?_
  refine (readPrecision_fallsBack _).bind fun precision => ?_
  split
  case h_3 => exact .form _
  -- What follows a kind is the same whether or not the kind is written.
  all_goals
    refine FallsBack.bind (.ok _) fun kind => ?_
    split
    · split
      · exact .form _
      · exact .ok _
    · exact .ok _

theorem checkText_fallsBack (layout : Layout) : FallsBack layout.checkText := by
  unfold checkText
  repeat' split
  all_goals first | exact .form _ | exact .ok _

/-- Whether nothing is left of a text depends on the layout, unless there was nothing before. -/
theorem set_eq_nil {layout : Layout} {cs : List Char} (some_ : cs ≠ [])
    (nothing : layout.set cs = []) (ds : List Char) : layout.set ds = [] := by
  unfold set at nothing ⊢
  cases most : layout.precision with
  | none =>
      simp only [most, List.append_eq_nil_iff] at nothing
      exact absurd nothing.1.2 some_
  | some most_ =>
      simp only [most, List.append_eq_nil_iff, List.take_eq_nil_iff, some_, or_false] at nothing ⊢
      rcases nothing with ⟨⟨before, rfl⟩, after⟩
      rw [List.take_zero] at before after ⊢
      exact ⟨⟨before, .inl rfl⟩, after⟩

theorem apply_eq_of_ne {cs : List Char} (some_ : cs ≠ []) (s : String) :
    apply cs s = read cs >>= fun layout => layout.checkText >>= fun _ =>
      .ok (String.ofList (layout.set s.toList)) := by
  rw [apply, if_neg (by rwa [List.isEmpty_iff])]
  rfl

/-- A text can be set by a layout for texts, and there is the template of last resort for the others. -/
theorem apply_ends (cs : List Char) (t : String) :
    (IsForTexts cs ∧ Exists fun text => apply cs t = .ok text) ∨
      (¬IsForTexts cs ∧ Exists fun fault => apply cs t = .error fault ∧
        fault.fallsBack = true) := by
  by_cases empty : cs = []
  · subst empty
    exact .inl ⟨.inl rfl, t, rfl⟩
  rw [apply_eq_of_ne empty, IsForTexts]
  cases read_ : read cs with
  | error fault =>
      refine .inr ⟨?_, fault, rfl, read_fallsBack cs fault read_⟩
      rintro (nothing | ⟨layout, ⟨⟩, _⟩)
      exact empty nothing
  | ok layout =>
      cases checked : layout.checkText with
      | error fault =>
          refine .inr ⟨?_, fault, by rw [Result.ok_bind, checked]; rfl,
            checkText_fallsBack layout fault checked⟩
          rintro (nothing | ⟨_, ⟨⟩, passes⟩)
          · exact empty nothing
          · cases checked.symm.trans passes
      | ok done => exact .inl ⟨.inr ⟨layout, rfl, checked⟩, _, by rw [Result.ok_bind, checked]; rfl⟩

/-- What is set by the same layout is nothing again if it was nothing. -/
theorem apply_again (cs : List Char) {s : String} (some_ : s ≠ "") (t : String) :
    ComesAgain True (fun a b => a = "" -> b = "") (apply cs s) (apply cs t) := by
  by_cases empty : cs = []
  · subst empty
    exact .of_ok fun nothing => absurd nothing some_
  rw [apply_eq_of_ne empty, apply_eq_of_ne empty]
  refine .andThen fun layout => .andThen fun _ => .of_ok fun nothing => ?_
  have characters : s.toList ≠ [] := fun none_ => some_ (String.toList_eq_nil_iff.mp none_)
  rw [set_eq_nil characters (String.ofList_eq_empty_iff.mp nothing)]

end Layout

/-- By one layout places are set alike. -/
theorem set_again (layout : List Char) {place other : Place} (alike : place.SetsLike other) :
    ComesAgain True (fun a b => a = "" -> b = "") (set layout place) (set layout other) := by
  cases alike with
  | same => exact .of_eq (fun _ => id) rfl
  | texts t some_ => exact Layout.apply_again layout some_ t

/-- What is no text is set by no layout but the empty one. -/
theorem eq_nil_of_set {layout : List Char} {place : Place} (other : forall s, place ≠ .text s)
    {shown : String} (came : set layout place = .ok shown) : layout = [] := by
  cases layout with
  | nil => rfl
  | cons c rest => cases place <;> first | exact absurd rfl (other _) | cases came

/-- Where the layouts differ, it is up to the one that there is now. -/
theorem set_anew {layout now : List Char} (fades : layout = [] -> now = []) {place other : Place}
    (alike : place.SetsLike other) :
    ComesAgain (Layout.IsForTexts now) (fun _ _ => True) (set layout place) (set now other) := by
  have ofText (t : String) : (Layout.IsForTexts now ∧
      Exists fun b => Layout.apply now t = .ok b ∧ True) ∨ (¬Layout.IsForTexts now ∧
        Exists fun fault => Layout.apply now t = .error fault ∧ fault.fallsBack = true) :=
    (Layout.apply_ends now t).imp_left fun ends => ⟨ends.1, ends.2.imp fun _ came => ⟨came, trivial⟩⟩
  intro shown tried
  cases alike with
  | texts t some_ => exact ofText t
  | same =>
      by_cases isText : Exists fun s => place = .text s
      · rcases isText with ⟨s, rfl⟩
        exact ofText s
      · have nothing := fades (eq_nil_of_set (fun s same => isText ⟨s, same⟩) tried)
        subst nothing
        refine .inl ⟨.inl rfl, place.display, ?_, trivial⟩
        cases place <;> rfl

/-! ## Filling -/

/-- What a field is filled with. -/
def fillSlot (fields : List (String × String)) (depth : Nat) (slot : Slot) :
    Except Fault String :=
  follow fields slot.path >>= fun found => convert found slot.conversion >>= fun place =>
    if slot.layout.contains '\x7b' then
      fillWithin fields depth slot.layout >>= fun layout => set layout.toList place
    else set slot.layout place

/-- What a part of a template is filled with. -/
def fillPiece (fields : List (String × String)) (depth : Nat) : Piece -> Except Fault String
  | .literal text => .ok (String.ofList text)
  | .slot slot => fillSlot fields depth slot

theorem fillWithin_succ (fields : List (String × String)) (depth : Nat) (cs : List Char) :
    fillWithin fields (depth + 1) cs =
      (parts cs).pieces.mapM (fillPiece fields depth) >>= fun texts =>
        match (parts cs).fault with
        | some form => .error (.form form)
        | none => .ok (String.join texts) := by
  rw [fillWithin]
  refine congrArg (fun step => (parts cs).pieces.mapM step >>= _) (funext fun piece => ?_)
  cases piece with
  | literal text => rfl
  | slot slot =>
      refine congrArg (follow fields slot.path >>= ·) (funext fun found => ?_)
      refine congrArg (convert found slot.conversion >>= ·) (funext fun place => ?_)
      dsimp only
      split
      · cases fillWithin fields depth slot.layout <;> rfl
      · rfl

/-- Named texts suit a template that could be filled in a trial: no field takes a character from behind
the end of the text that it names, and a layout that holds fields suits too and comes to one by which
a text can be set. -/
def Suits (fields : List (String × String)) : Nat -> List Char -> Prop
  | 0, _ => True
  | depth + 1, cs => forall slot, Piece.slot slot ∈ (parts cs).pieces ->
      Reaches fields slot.path ∧ (slot.layout.contains '\x7b' = true ->
        Suits fields depth slot.layout ∧ forall layout,
          fillWithin fields depth slot.layout = .ok layout -> Layout.IsForTexts layout.toList)

section Filling

variable {fields sample : List (String × String)} {depth : Nat}

/-- A template comes out again if each of its fields does. -/
theorem fillWithin_again {related : String -> String -> Prop} (reflexive : forall a, related a a)
    (joins : forall as bs, List.Forall₂ related as bs ->
      related (String.join as) (String.join bs)) {condition : Slot -> Prop} {cs : List Char}
    (each : forall slot, Piece.slot slot ∈ (parts cs).pieces -> ComesAgain (condition slot) related
      (fillSlot sample depth slot) (fillSlot fields depth slot)) :
    ComesAgain (forall slot, Piece.slot slot ∈ (parts cs).pieces -> condition slot) related
      (fillWithin sample (depth + 1) cs) (fillWithin fields (depth + 1) cs) := by
  rw [fillWithin_succ, fillWithin_succ]
  have pieces : ComesAgain (forall piece, piece ∈ (parts cs).pieces ->
      forall slot, piece = .slot slot -> condition slot) (List.Forall₂ related)
      ((parts cs).pieces.mapM (fillPiece sample depth))
      ((parts cs).pieces.mapM (fillPiece fields depth)) := by
    refine .mapM fun piece member => ?_
    cases piece with
    | literal text => exact (ComesAgain.of_eq reflexive rfl).congr ⟨fun _ => nofun, fun _ => trivial⟩
    | slot slot =>
        refine (each slot member).congr ⟨fun holds _ same => ?_, fun every => every slot rfl⟩
        cases same
        exact holds
  refine (pieces.bind (Q := True) fun as bs _ _ same => ?_).congr ?_
  · cases (parts cs).fault with
    | some form => exact .of_error
    | none => exact .of_ok (joins as bs same)
  · exact ⟨fun every slot member => every.1 _ member slot rfl,
      fun every => ⟨fun piece member slot same => every slot (same ▸ member), trivial⟩⟩

/-- Nothing is filled with layouts that hold fields beyond the depth to which they may. -/
theorem fillSlot_zero {slot : Slot} (nested : slot.layout.contains '\x7b' = true) (text : String) :
    fillSlot fields 0 slot ≠ .ok text := by
  intro came
  rcases Result.bind_eq_ok_iff.mp came with ⟨found, _, later⟩
  rcases Result.bind_eq_ok_iff.mp later with ⟨place, _, last⟩
  rw [if_pos nested] at last
  cases last

/-- Texts that are joined are nothing again if they were nothing. -/
theorem join_again {as bs : List String}
    (each : List.Forall₂ (fun a b => a = "" -> b = "") as bs) :
    String.join as = "" -> String.join bs = "" := by
  induction each with
  | nil => exact id
  | cons first _ inductionHypothesis =>
      rw [String.join_cons, String.join_cons, String.append_eq_empty_iff, String.append_eq_empty_iff]
      exact fun both => ⟨first both.1, inductionHypothesis both.2⟩

section Covered

variable (covers : Covers fields sample) (some_ : forall entry, entry ∈ sample -> entry.2 ≠ "")

include covers some_

/-- A field whose layout is written out comes out again if its path does. -/
theorem fillSlot_again {slot : Slot} (plain : slot.layout.contains '\x7b' = false) :
    ComesAgain (Reaches fields slot.path) (fun a b => a = "" -> b = "")
      (fillSlot sample depth slot) (fillSlot fields depth slot) := by
  refine ComesAgain.congr ((follow_again covers some_ slot.path).bind (Q := True)
    fun found found_ _ _ alike => ?_) (and_iff_left trivial)
  refine ComesAgain.congr ((convert_again alike slot.conversion).bind (Q := True)
    fun place place_ _ _ alike => ?_) (and_iff_left trivial)
  rw [plain, if_neg Bool.false_ne_true, if_neg Bool.false_ne_true]
  exact set_again slot.layout alike

/-- A template whose layouts are written out is nothing again if it was nothing. -/
theorem fill_once (cs : List Char) : ComesAgain (Suits fields 1 cs) (fun a b => a = "" -> b = "")
    (fillWithin sample 1 cs) (fillWithin fields 1 cs) := by
  have each (slot : Slot) (_ : Piece.slot slot ∈ (parts cs).pieces) :
      ComesAgain (Reaches fields slot.path) (fun a b => a = "" -> b = "")
        (fillSlot sample 0 slot) (fillSlot fields 0 slot) := by
    cases holds : slot.layout.contains '\x7b' with
    | false => exact fillSlot_again covers some_ holds
    | true => exact fun text came => absurd came (fillSlot_zero holds text)
  exact (fillWithin_again (fun _ => id) (fun _ _ => join_again) each).congr (forall₂_congr
    fun slot _ => ⟨fun reaches => ⟨reaches, fun _ => ⟨trivial, nofun⟩⟩, And.left⟩)

/-- A field whose layout holds fields comes out again if its path does, and its layout, and if a text can
be set by what the layout comes to. -/
theorem fillSlot_anew {slot : Slot} (nested : slot.layout.contains '\x7b' = true) :
    ComesAgain (Reaches fields slot.path ∧ Suits fields 1 slot.layout ∧ forall layout,
        fillWithin fields 1 slot.layout = .ok layout -> Layout.IsForTexts layout.toList)
      (fun _ _ => True) (fillSlot sample 1 slot) (fillSlot fields 1 slot) := by
  refine (follow_again covers some_ slot.path).bind fun found found_ _ _ alike => ?_
  refine ComesAgain.congr ((convert_again alike slot.conversion).bind
    fun place place_ _ _ alike => ?_) (and_iff_right trivial)
  rw [nested, if_pos rfl, if_pos rfl]
  refine (fill_once covers some_ slot.layout).bind fun layout now _ filled fades => ?_
  have fades_ (nothing : layout.toList = []) : now.toList = [] :=
    String.toList_eq_nil_iff.mpr (fades (String.toList_eq_nil_iff.mp nothing))
  refine (set_anew fades_ alike).congr ⟨fun forTexts _ same => ?_, fun every => every now filled⟩
  cases filled.symm.trans same
  exact forTexts

/-- Whatever a template was filled with in a trial, texts of the same names fill it just when they suit
it, and otherwise there is the template of last resort. -/
theorem fill_twice (cs : List Char) : ComesAgain (Suits fields 2 cs) (fun _ _ => True)
    (fillWithin sample 2 cs) (fillWithin fields 2 cs) := by
  refine fillWithin_again (fun _ => trivial) (fun _ _ _ => trivial) fun slot member => ?_
  cases holds : slot.layout.contains '\x7b' with
  | false =>
      exact ((fillSlot_again covers some_ holds).weaken fun _ _ _ _ => trivial).congr
        ⟨fun reaches => ⟨reaches, nofun⟩, And.left⟩
  | true =>
      exact (fillSlot_anew covers some_ holds).congr
        (and_congr_right fun _ => ⟨fun suits _ => suits, fun suits => suits rfl⟩)

end Covered

end Filling

/-- A template that takes no characters by their position, and whose layouts are written out. -/
def IsPlain (template : String) : Prop :=
  forall slot, Piece.slot slot ∈ (parts template.toList).pieces ->
    positionIn? slot.path = none ∧ slot.layout.contains '\x7b' = false

/-- Whatever the texts are, they suit a template that does not look at them. -/
theorem IsPlain.suits {template : String} (plain : IsPlain template)
    (fields : List (String × String)) : Suits fields depth template.toList := by
  intro slot member
  rcases plain slot member with ⟨none_, written⟩
  refine ⟨fun _ taken => ?_, fun nested => ?_⟩
  · cases none_.symm.trans taken
  · cases written.symm.trans nested

end Template

/-! ## Messages -/

namespace Executor

/-- The message of last resort. -/
def standardText (rule : Rule) (ticketId : String) : String :=
  "Rule '" ++ rule.name ++ "' fired for ticket #" ++ ticketId

/-- The template of last resort can always be filled. -/
theorem fill_fallback (rule : Rule) (ticketId : String) (ticket : Option Ticket) :
    Template.fill fallbackTemplate (templateValues rule ticketId ticket) =
      .ok (standardText rule ticketId) := by
  have taken : Template.parts fallbackTemplate.toList =
      ⟨[.literal "Rule '".toList, .slot ⟨"rule_name".toList, none, []⟩,
        .literal "' fired for ticket #".toList, .slot ⟨"ticket_id".toList, none, []⟩,
        .literal []], none⟩ := by decide +kernel
  have joined : Template.fill fallbackTemplate (templateValues rule ticketId ticket) =
      .ok (String.join [String.ofList "Rule '".toList, rule.name,
        String.ofList "' fired for ticket #".toList, ticketId, String.ofList []]) := by
    rw [Template.fill, Template.depth, Template.fillWithin_succ, taken]
    cases ticket <;> rfl
  rw [joined]
  simp only [String.join_cons, String.join_nil, String.ofList_toList, String.ofList_nil,
    String.append_empty, standardText, String.append_assoc]

variable {template : String} {rule : Rule} {ticketId : String} {ticket : Option Ticket}

theorem message_of_ok {text : String}
    (filled : Template.fill template (templateValues rule ticketId ticket) = .ok text) :
    message template rule ticketId ticket = some text := by
  rw [message, filled]

theorem message_of_error {fault : Template.Fault}
    (failed : Template.fill template (templateValues rule ticketId ticket) = .error fault) :
    message template rule ticketId ticket =
      if fault.fallsBack then some (standardText rule ticketId) else none := by
  rw [message, failed]
  dsimp only
  rw [fill_fallback]
  rfl

/-- Whatever the sample names, a ticket that was read names too. -/
theorem covers_sample (rule : Rule) (ticketId : String) (ticket : Ticket) :
    Template.Covers (templateValues rule ticketId (some ticket)) Settings.sample := by
  have names : (templateValues rule ticketId (some ticket)).map Prod.fst =
      Settings.sample.map Prod.fst := rfl
  intro key known
  rw [List.lookup_isSome_iff] at known ⊢
  rcases known with ⟨entry, member, same⟩
  have named : entry.1 ∈ (templateValues rule ticketId (some ticket)).map Prod.fst := by
    rw [names]
    exact List.mem_map_of_mem member
  rcases List.mem_map.mp named with ⟨other, among, alike⟩
  exact ⟨other, among, alike ▸ same⟩

end Executor

namespace Settings

variable {settings : Settings}

theorem sample_ne_empty : forall entry, entry ∈ sample -> entry.2 ≠ "" := by decide

/-- The template of settings that are not refused could be filled with the sample. -/
theorem exists_fill_of_validate (accepted : settings.validate = .ok ()) : Exists fun text =>
    Template.fill settings.notification.templateText sample = .ok text := by
  unfold validate at accepted
  simp only [Result.check_eq_ok_iff] at accepted
  rcases accepted with ⟨_, _, _, _, _, _, _, _, _, _, checked⟩
  unfold checkTemplate at checked
  split at checked
  next template isText =>
    rw [Notification.templateText, isText]
    split at checked
    next text filled => exact ⟨text, filled⟩
    next fault _ => split at checked <;> cases checked
  next => cases checked

open Executor (message standardText templateValues)
open Template (IsPlain Suits fill)

end Settings

namespace Sample

/-- The standard settings with a template that takes the fourth character of the status. -/
def fourth : Settings :=
  { Settings.standard with
    notification :=
      { Settings.standard.notification with template := .text "\x7bstatus[3]\x7d" } }

theorem fourth_isValid : fourth.validate = .ok () := by
  have good : fourth.validate.isOk = true := by decide +kernel
  cases result : fourth.validate with
  | ok _ => rfl
  | error failure => rw [result] at good; cases good

end Sample
end Triage
