import AtomicCommit.Proofs.Shipment

/-!
# What the peer of a connection receives

A ledger keeps record of the calls that write to one connection: the data of those that succeeded,
and of those that failed because a close overtook them. As long as no two calls overlap, what was
queued is the data of all of them, and as much as the call under way has queued. What became of the
bytes queued is on record too, as the marks of a shipment.

* **step** — `Ledger.Agrees.enter`: what a step enters agrees with the calls under way after it.
* **run** — `Yard.right_after`: a ledger that is right stays so.
-/

namespace AtomicCommit

open Wire

namespace Transport

/-! ## Ledgers -/

/-- What is on record of the calls that write to a connection, in order. -/
structure Ledger where
  marks : Marks := {}
  /-- The bytes queued. -/
  queued : Bytes := []
  /-- The data of the calls that succeeded. -/
  succeeded : List Bytes := []
  /-- The data of the calls that failed although they were accepted at first. -/
  overtaken : List Bytes := []
  underWay : Option Bytes := none
  /-- A call began while another was under way. -/
  overlapped : Bool := false
  deriving DecidableEq, Repr

namespace Ledger

/-- The call under way returns. -/
def conclude (l : Ledger) (succeeds : Bool) : Ledger :=
  let data := l.underWay.getD []
  if succeeds then { l with succeeded := l.succeeded ++ [data], underWay := none }
  else { l with overtaken := l.overtaken ++ [data], underWay := none }

/-- What a step queues, and the call that it begins or ends. A call to a closed connection is
refused. -/
def enter (l : Ledger) (y : Yard) (place : Nat) (c : Connection) (m : Yard.Move) : Ledger :=
  let l := { l with queued := l.queued ++ y.queuedBy place m }
  match m with
  | .hub (.write p data) =>
    if p = place ∧ (y.hub.write p data).2.isOk then
      { l with succeeded := l.succeeded ++ [data], overlapped := l.overlapped || l.underWay.isSome }
    else l
  | .call p data =>
    if p = place ∧ c.isClosed = false then
      { l with underWay := some data, overlapped := l.overlapped || l.underWay.isSome }
    else l
  | .checkOut k =>
    match y.calls[k]? with
    | some ⟨p, []⟩ => if p = place then l.conclude (y.hub.checkOut p).2.isOk else l
    | _ => l
  | _ => l

/-- A step of the yard. -/
def note (l : Ledger) (y : Yard) (place : Nat) (m : Yard.Move) : Ledger :=
  match y.hub.connections[place]?, (y.move m).hub.connections[place]? with
  | some c, some c' => { l.enter y place c m with marks := l.marks.past c.outlet c'.outlet }
  | _, _ => l

end Ledger

namespace Yard

/-- What is on record after some moves. -/
def ledgerFrom (y : Yard) (place : Nat) (l : Ledger) : List Move → Ledger
  | [] => l
  | m :: rest => (y.move m).ledgerFrom place (l.note y place m) rest

/-- The ledger of a connection of a yard, kept from the beginning. -/
def ledger (y : Yard) (place : Nat) (moves : List Move) : Ledger :=
  y.ledgerFrom place {} moves

/-- What the calls under way at a place have left to queue. -/
def leftAt (y : Yard) (place : Nat) : List Bytes :=
  y.calls.flatMap fun call => if call.place = place then [call.left] else []

end Yard

/-! ## Calls -/

/-- A call among the others. -/
theorem Yard.leftAt_parts {y : Yard} {k p : Nat} {left : Bytes}
    (under : y.calls[k]? = some ⟨p, left⟩) (place : Nat) :
    ∃ before after, y.leftAt place = before ++ (if p = place then [left] else []) ++ after ∧
      (∀ hub rest, leftAt ⟨hub, y.calls.set k ⟨p, rest⟩⟩ place =
        before ++ (if p = place then [rest] else []) ++ after) ∧
      ∀ hub, leftAt ⟨hub, y.calls.eraseIdx k⟩ place = before ++ after := by
  obtain ⟨inside, there⟩ := List.getElem?_eq_some_iff.mp under
  let lefts (calls : List Call) : List Bytes := leftAt ⟨y.hub, calls⟩ place
  have one : ∀ call, lefts (y.calls.take k ++ call :: y.calls.drop (k + 1)) =
      lefts (y.calls.take k) ++ (if call.place = place then [call.left] else []) ++
        lefts (y.calls.drop (k + 1)) := by
    intro call
    simp [lefts, leftAt]
  refine ⟨lefts (y.calls.take k), lefts (y.calls.drop (k + 1)), ?_, ?_, ?_⟩
  · have all := one y.calls[k]
    rw [← List.drop_eq_getElem_cons inside, List.take_append_drop, there] at all
    exact all
  · intro hub rest
    rw [List.set_eq_take_append_cons_drop, if_pos inside]
    exact one ⟨p, rest⟩
  · intro hub
    rw [List.eraseIdx_eq_take_drop_succ]
    exact List.flatMap_append

/-- What is queued is the data of calls, of which one may be under way. -/
inductive Ledger.Agrees (l : Ledger) (closed : Bool) : List Bytes → Prop
  | quiet (none : l.underWay = none) (queued : l.queued = (l.succeeded ++ l.overtaken).flatten)
      (afterClose : l.overtaken ≠ [] → closed = true) (once : l.overtaken.length ≤ 1) :
      Agrees l closed []
  | busy {part left : Bytes} (some : l.underWay = some (part ++ left))
      (queued : l.queued = l.succeeded.flatten ++ part) (inTime : l.overtaken = []) :
      Agrees l closed [left]

section Agree

variable {l l' : Ledger} {closed closed' : Bool} {lefts : List Bytes}

/-- Nothing is entered, but the connection may be closed. -/
theorem Ledger.Agrees.aside (agrees : l.Agrees closed lefts) (queued : l'.queued = l.queued)
    (succeeded : l'.succeeded = l.succeeded) (overtaken : l'.overtaken = l.overtaken)
    (underWay : l'.underWay = l.underWay) (closes : closed = true → closed' = true) :
    l'.Agrees closed' lefts := by
  cases agrees with
  | quiet none all afterClose once =>
    refine .quiet (underWay.trans none) ?_ ?_ ?_
    · rw [queued, succeeded, overtaken]
      exact all
    · rw [overtaken]
      exact fun some => closes (afterClose some)
    · rw [overtaken]
      exact once
  | busy some all inTime =>
    refine .busy (underWay.trans some) ?_ (overtaken.trans inTime)
    rw [queued, succeeded]
    exact all

/-- On an open connection no call was overtaken. -/
theorem Ledger.Agrees.inTime (agrees : l.Agrees false lefts) : l.overtaken = [] := by
  cases agrees with
  | quiet none all afterClose =>
    cases overtaken : l.overtaken with
    | nil => rfl
    | cons => exact absurd (afterClose (by simp [overtaken])) Bool.false_ne_true
  | busy some all inTime => exact inTime

/-- A call begins while no other is under way. -/
theorem Ledger.Agrees.call (agrees : l.Agrees false lefts) (apart : l.underWay = none)
    {data : Bytes} (queued : l'.queued = l.queued) (succeeded : l'.succeeded = l.succeeded)
    (overtaken : l'.overtaken = l.overtaken) (underWay : l'.underWay = some data) :
    l'.Agrees closed' (lefts ++ [data]) := by
  have inTime := agrees.inTime
  cases agrees with
  | quiet none all =>
    refine @Agrees.busy _ _ [] _ underWay ?_ (overtaken.trans inTime)
    rw [queued, succeeded, all, inTime]
    simp
  | busy some => exact absurd (apart.symm.trans some) (by simp)

/-- A call that nobody interrupts. -/
theorem Ledger.Agrees.write (agrees : l.Agrees false lefts) (apart : l.underWay = none)
    {data : Bytes} (queued : l'.queued = l.queued ++ data)
    (succeeded : l'.succeeded = l.succeeded ++ [data]) (overtaken : l'.overtaken = l.overtaken)
    (underWay : l'.underWay = l.underWay) : l'.Agrees closed' lefts := by
  have inTime := agrees.inTime
  cases agrees with
  | quiet none all =>
    refine .quiet (underWay.trans none) ?_ ?_ ?_
    · rw [queued, succeeded, overtaken, all, inTime]
      simp
    · exact fun some => absurd (overtaken.trans inTime) some
    · rw [overtaken, inTime]
      exact Nat.zero_le 1
  | busy some => exact absurd (apart.symm.trans some) (by simp)

/-- The call under way is the only one. -/
theorem Ledger.Agrees.only {before after : List Bytes} {left : Bytes}
    (agrees : l.Agrees closed (before ++ [left] ++ after)) : before = [] ∧ after = [] ∧
      ∃ part, l.underWay = some (part ++ left) ∧ l.queued = l.succeeded.flatten ++ part ∧
        l.overtaken = [] := by
  generalize calls : before ++ [left] ++ after = lefts at agrees
  cases agrees with
  | quiet => simp at calls
  | @busy part other some all inTime =>
    have alone : before = [] ∧ after = [] := by
      have := congrArg List.length calls
      simp only [List.length_append, List.length_singleton] at this
      exact ⟨List.length_eq_zero_iff.mp (by omega), List.length_eq_zero_iff.mp (by omega)⟩
    obtain ⟨rfl, rfl⟩ := alone
    obtain rfl : left = other := List.singleton_inj.mp calls
    exact ⟨rfl, rfl, part, some, all, inTime⟩

/-- The call under way queues some of what it has left. -/
theorem Ledger.Agrees.push {before after : List Bytes} {left : Bytes}
    (agrees : l.Agrees closed (before ++ [left] ++ after)) (size : Nat)
    (queued : l'.queued = l.queued ++ left.take size) (succeeded : l'.succeeded = l.succeeded)
    (overtaken : l'.overtaken = l.overtaken) (underWay : l'.underWay = l.underWay) :
    l'.Agrees closed' (before ++ [left.drop size] ++ after) := by
  obtain ⟨rfl, rfl, part, some, all, inTime⟩ := agrees.only
  refine @Agrees.busy _ _ (part ++ left.take size) _ ?_ ?_ (overtaken.trans inTime)
  · rw [underWay, some, List.append_assoc, List.take_append_drop]
  · rw [queued, all, succeeded, List.append_assoc]

/-- The call under way returns, and has nothing left. -/
theorem Ledger.Agrees.conclude {before after : List Bytes}
    (agrees : l.Agrees closed (before ++ [[]] ++ after)) {succeeds : Bool}
    (fails : succeeds = false → closed = true) :
    (l.conclude succeeds).Agrees closed (before ++ after) := by
  obtain ⟨rfl, rfl, part, some, all, inTime⟩ := agrees.only
  rw [List.append_nil] at some
  cases succeeds with
  | true =>
    refine .quiet rfl ?_ (absurd inTime) ?_
    · simp [Ledger.conclude, all, some, inTime]
    · simp [Ledger.conclude, inTime]
  | false =>
    refine .quiet rfl ?_ (fun _ => fails rfl) ?_
    · simp [Ledger.conclude, all, some, inTime]
    · simp [Ledger.conclude, inTime]

/-- What was queued, seen at any time. -/
theorem Ledger.Agrees.spec (agrees : l.Agrees closed lefts) :
    ∃ part, l.queued = (l.succeeded ++ l.overtaken).flatten ++ part ∧
      part <+: l.underWay.getD [] ∧ l.overtaken.length ≤ 1 ∧
      (l.overtaken ≠ [] → closed = true ∧ l.underWay = none) := by
  cases agrees with
  | quiet none all afterClose once =>
    refine ⟨[], ?_, List.nil_prefix, once, fun some => ⟨afterClose some, none⟩⟩
    rw [List.append_nil]
    exact all
  | @busy part left some all inTime =>
    refine ⟨part, ?_, ?_, ?_, fun overtaken => absurd inTime overtaken⟩
    · rw [inTime, List.append_nil]
      exact all
    · rw [some]
      exact List.prefix_append part left
    · rw [inTime]
      exact Nat.zero_le 1

end Agree

section Enter

variable {l : Ledger} {y : Yard} {place : Nat} {c : Connection} {m : Yard.Move}

namespace Ledger

/-- That calls overlapped is not forgotten. -/
theorem overlapped_of_enter (apart : (l.enter y place c m).overlapped = false) :
    l.overlapped = false := by
  unfold enter at apart
  dsimp only at apart
  split at apart
  · split at apart
    · exact (Bool.or_eq_false_iff.mp apart).1
    · exact apart
  · split at apart
    · exact (Bool.or_eq_false_iff.mp apart).1
    · exact apart
  · split at apart
    · split at apart
      · unfold conclude at apart
        dsimp only at apart
        split at apart <;> exact apart
      · exact apart
    · exact apart
  · exact apart

theorem queued_enter : (l.enter y place c m).queued = l.queued ++ y.queuedBy place m := by
  unfold enter
  dsimp only
  split
  · split <;> rfl
  · split <;> rfl
  · split
    · split
      · unfold conclude
        dsimp only
        split <;> rfl
      · rfl
    · rfl
  · rfl

/-- A step that queues nothing here, and neither begins a call nor ends one. -/
theorem Agrees.idle {closed : Bool} (agrees : l.Agrees closed (y.leftAt place))
    (entered : l.enter y place c m = { l with queued := l.queued ++ y.queuedBy place m })
    (queued : y.queuedBy place m = []) (calls : (y.move m).leftAt place = y.leftAt place) :
    (l.enter y place c m).Agrees closed ((y.move m).leftAt place) := by
  rw [entered, queued, calls]
  exact agrees.aside (List.append_nil _) rfl rfl rfl id

theorem isOpen_of_write (found : y.hub.connections[place]? = some c) {data : Bytes}
    (accepted : (y.hub.write place data).2.isOk = true) : c.isClosed = false := by
  cases closed : c.isClosed with
  | false => rfl
  | true =>
    unfold Hub.write at accepted
    rw [found] at accepted
    simp [closed, Except.isOk, Except.toBool] at accepted

theorem Agrees.enter_write (found : y.hub.connections[place]? = some c)
    (agrees : l.Agrees c.isClosed (y.leftAt place)) {p : Nat} {data : Bytes}
    (apart : (l.enter y place c (.hub (.write p data))).overlapped = false) :
    (l.enter y place c (.hub (.write p data))).Agrees c.isClosed (y.leftAt place) := by
  by_cases here : p = place ∧ (y.hub.write p data).2.isOk = true
  · obtain ⟨rfl, accepted⟩ := here
    have queued : y.queuedBy p (.hub (.write p data)) = data :=
      if_pos ⟨rfl, by rw [found]; rfl, accepted⟩
    have entered : l.enter y p c (.hub (.write p data)) = { l with
        queued := l.queued ++ y.queuedBy p (.hub (.write p data))
        succeeded := l.succeeded ++ [data]
        overlapped := l.overlapped || l.underWay.isSome } := if_pos ⟨rfl, accepted⟩
    rw [entered] at apart ⊢
    rw [isOpen_of_write found accepted] at agrees
    have alone := Option.isSome_eq_false_iff.mp (Bool.or_eq_false_iff.mp apart).2
    rw [queued]
    exact agrees.write (Option.isNone_iff_eq_none.mp alone) rfl rfl rfl rfl
  · have queued : y.queuedBy place (.hub (.write p data)) = [] :=
      if_neg fun all => here ⟨all.1, all.2.2⟩
    exact agrees.idle (m := .hub (.write p data)) (if_neg here) queued rfl

theorem leftAt_call (found : y.hub.connections[place]? = some c) (p : Nat) (data : Bytes) :
    (y.move (.call p data)).leftAt place =
      y.leftAt place ++ if p = place ∧ c.isClosed = false then [data] else [] := by
  cases y.call_cases p data with
  | refused same shut =>
    have nobody : ¬ (p = place ∧ c.isClosed = false) := by
      rintro ⟨rfl, isOpen⟩
      exact absurd (isOpen.symm.trans (shut c found)) Bool.false_ne_true
    rw [same, if_neg nobody, List.append_nil]
  | begins there isOpen moved =>
    rw [moved]
    by_cases here : p = place
    · subst here
      obtain rfl := Option.some.inj (found.symm.trans there)
      simp [Yard.leftAt, isOpen]
    · simp [Yard.leftAt, here]

theorem Agrees.enter_call (found : y.hub.connections[place]? = some c)
    (agrees : l.Agrees c.isClosed (y.leftAt place)) {p : Nat} {data : Bytes}
    (apart : (l.enter y place c (.call p data)).overlapped = false) :
    (l.enter y place c (.call p data)).Agrees c.isClosed
      ((y.move (.call p data)).leftAt place) := by
  have calls := leftAt_call found p data
  by_cases here : p = place ∧ c.isClosed = false
  · have entered : l.enter y place c (.call p data) = { l with
        queued := l.queued ++ y.queuedBy place (.call p data)
        underWay := some data
        overlapped := l.overlapped || l.underWay.isSome } := if_pos here
    rw [entered] at apart ⊢
    rw [here.2] at agrees
    rw [if_pos here] at calls
    have alone := Option.isSome_eq_false_iff.mp (Bool.or_eq_false_iff.mp apart).2
    rw [calls]
    exact agrees.call (Option.isNone_iff_eq_none.mp alone) (List.append_nil _) rfl rfl rfl
  · rw [if_neg here, List.append_nil] at calls
    exact agrees.idle (if_neg here) rfl calls

theorem Agrees.enter_push {closed : Bool} (agrees : l.Agrees closed (y.leftAt place)) (k : Nat) :
    (l.enter y place c (.push k)).Agrees closed ((y.move (.push k)).leftAt place) := by
  cases y.push_cases k with
  | idle same nothing =>
    refine agrees.idle rfl (Yard.queuedBy_push_idle nothing place) ?_
    rw [same]
  | @queues p left under _ moved =>
    have queued := Yard.queuedBy_push under place
    obtain ⟨before, after, lefts, goesOn, -⟩ := Yard.leftAt_parts under place
    have calls : (y.move (.push k)).leftAt place = before ++
        (if p = place then [left.drop (max y.hub.pool.chunkSize 1)] else []) ++ after := by
      rw [moved]
      exact goesOn _ _
    by_cases here : p = place
    · rw [if_pos here] at queued lefts calls
      rw [lefts] at agrees
      rw [calls]
      exact agrees.push _ (congrArg (l.queued ++ ·) queued) rfl rfl rfl
    · rw [if_neg here] at queued lefts calls
      exact agrees.idle rfl queued (calls.trans lefts.symm)

theorem Agrees.enter_checkOut (found : y.hub.connections[place]? = some c)
    (agrees : l.Agrees c.isClosed (y.leftAt place)) (k : Nat) :
    (l.enter y place c (.checkOut k)).Agrees c.isClosed
      ((y.move (.checkOut k)).leftAt place) := by
  cases y.checkOut_cases k with
  | idle same busy =>
    refine agrees.idle ?_ rfl (by rw [same])
    unfold enter
    dsimp only
    split
    · rename_i p under
      exact absurd under (busy p)
    · rfl
  | @returns p under moved =>
    obtain ⟨before, after, lefts, -, erased⟩ := Yard.leftAt_parts under place
    have calls : (y.move (.checkOut k)).leftAt place = before ++ after := by
      rw [moved]
      exact erased _
    by_cases here : p = place
    · subst here
      have entered : l.enter y p c (.checkOut k) =
          Ledger.conclude { l with queued := l.queued ++ [] } (y.hub.checkOut p).2.isOk := by
        simp only [enter, under, if_true, Yard.queuedBy]
      have fails : (y.hub.checkOut p).2.isOk = false → c.isClosed = true := by
        cases closed : c.isClosed with
        | true => exact fun _ => rfl
        | false =>
          rw [Hub.checkOut_of_open found closed]
          exact fun failed => absurd failed.symm Bool.false_ne_true
      rw [lefts, if_pos rfl] at agrees
      rw [entered, calls, List.append_nil]
      exact agrees.conclude fails
    · refine agrees.idle ?_ rfl ?_
      · simp only [enter, under, if_neg here]
      · rw [calls, lefts, if_neg here, List.append_nil]

/-- **Step.** What a step enters agrees with the calls under way after it. -/
theorem Agrees.enter (found : y.hub.connections[place]? = some c)
    (agrees : l.Agrees c.isClosed (y.leftAt place))
    (apart : (l.enter y place c m).overlapped = false) :
    (l.enter y place c m).Agrees c.isClosed ((y.move m).leftAt place) := by
  cases m with
  | shut | drain | halt => exact agrees.idle rfl rfl rfl
  | hub m =>
    cases m with
    | write p data => exact agrees.enter_write found apart
    | «open» | start | serve | close | act | read | settle | shrink | endReader | send | endWriter
    | borrow | giveBack => exact agrees.idle rfl rfl rfl
  | call p data => exact agrees.enter_call found apart
  | push k => exact agrees.enter_push k
  | checkOut k => exact agrees.enter_checkOut found k

end Ledger

end Enter

/-! ## Runs -/

/-- What a ledger says about a connection is right. -/
structure Ledger.Right (l : Ledger) (y : Yard) (place : Nat) (c : Connection) : Prop where
  ships : c.writers.length ≤ 1 →
    ∃ done part rest lost, Ships l.queued l.marks c.outlet done part rest lost
  agrees : l.overlapped = false → l.Agrees c.isClosed (y.leftAt place)

section Runs

variable {l : Ledger} {y : Yard} {place : Nat} {c : Connection}

theorem Ledger.right_blank (blank : c.outlet = ⟨false, [], [], [], 0⟩)
    (free : y.leftAt place = []) : Ledger.Right {} y place c := by
  refine ⟨fun _ => ⟨[], [], [], [], blank ▸ ships_blank⟩, fun _ => ?_⟩
  rw [free]
  exact .quiet rfl rfl (absurd rfl) (Nat.zero_le 1)

theorem Ledger.note_of_next {c' : Connection} {m : Yard.Move}
    (found : y.hub.connections[place]? = some c)
    (next : (y.move m).hub.connections[place]? = some c') : l.note y place m =
      { l.enter y place c m with marks := l.marks.past c.outlet c'.outlet } := by
  unfold note
  rw [found, next]

theorem Ledger.Right.note (right : l.Right y place c) (sound : y.hub.pool.Sound)
    (found : y.hub.connections[place]? = some c) (m : Yard.Move) :
    ∃ c', (y.move m).hub.connections[place]? = some c' ∧
      (l.note y place m).Right (y.move m) place c' := by
  obtain ⟨c', next, handles⟩ := Yard.handled sound found m
  refine ⟨c', next, ?_⟩
  rw [Ledger.note_of_next found next]
  refine ⟨fun alone => ?_, fun apart => ?_⟩
  · obtain ⟨_, _, _, _, ships⟩ := right.ships (Nat.le_trans handles.length_writers_le alone)
    show ∃ done part rest lost, Ships (l.enter y place c m).queued _ _ done part rest lost
    rw [Ledger.queued_enter]
    exact ships.handle handles sound alone
  · have before := right.agrees (Ledger.overlapped_of_enter apart)
    exact (before.enter found apart).aside rfl rfl rfl rfl handles.closed

/-- **Run.** A ledger that is right stays so. -/
theorem Yard.right_after (right : l.Right y place c) (sound : y.hub.pool.Sound)
    (found : y.hub.connections[place]? = some c) (moves : List Move) :
    ∃ c', (y.after moves).hub.connections[place]? = some c' ∧
      (y.ledgerFrom place l moves).Right (y.after moves) place c' := by
  induction moves generalizing y l c with
  | nil => exact ⟨c, found, right⟩
  | cons m rest ih =>
    obtain ⟨c', next, noted⟩ := right.note sound found m
    exact ih noted (sound_move sound m) next

/-! ### Whole calls -/

/-- Whether a call or a close goes on from its beginning to its end. -/
def Yard.Move.isWhole : Move → Bool
  | .hub _ => true
  | .call .. | .push _ | .checkOut _ | .shut .. | .drain _ | .halt .. => false

/-- What is on record when nobody interrupts a call or a close. -/
structure Ledger.Whole (l : Ledger) (o : Outlet) : Prop where
  tidy : o.Tidy
  shut : l.marks.returned = true → o.closed = true
  inTurn : l.marks.skipped = false
  alone : l.underWay = none
  inTime : l.overtaken = []
  apart : l.overlapped = false

theorem Ledger.Whole.enter (whole : l.Whole c.outlet) (y : Yard) (place : Nat) (m : Hub.Move) :
    (l.enter y place c (.hub m)).Whole c.outlet := by
  have free : l.underWay.isSome = false := by rw [whole.alone, Option.isSome_none]
  cases m with
  | write p data =>
    by_cases here : p = place ∧ (y.hub.write p data).2.isOk = true
    · have entered : l.enter y place c (.hub (.write p data)) = { l with
          queued := l.queued ++ y.queuedBy place (.hub (.write p data))
          succeeded := l.succeeded ++ [data]
          overlapped := l.overlapped || l.underWay.isSome } := if_pos here
      rw [entered, free, Bool.or_false]
      exact { whole with }
    · rw [show l.enter y place c (.hub (.write p data)) = { l with
        queued := l.queued ++ y.queuedBy place (.hub (.write p data)) } from if_neg here]
      exact { whole with }
  | «open» | start | serve | close | act | read | settle | shrink | endReader | send | endWriter
  | borrow | giveBack => exact { whole with }

theorem Ledger.Whole.note (whole : l.Whole c.outlet)
    (found : y.hub.connections[place]? = some c) (m : Hub.Move) :
    ∃ c', (y.move (.hub m)).hub.connections[place]? = some c' ∧
      (l.note y place (.hub m)).Whole c'.outlet := by
  obtain ⟨c', next, works⟩ := Yard.step_works found m
  change (y.move (.hub m)).hub.connections[place]? = some c' at next
  obtain ⟨skipped, shut⟩ := works.inTurn whole.tidy whole.shut
  refine ⟨c', next, ?_⟩
  rw [Ledger.note_of_next found next]
  exact { whole.enter y place m with
    tidy := works.tidy whole.tidy
    shut := shut
    inTurn := skipped.trans whole.inTurn }

/-- **Whole calls.** A ledger stays whole as long as nobody interrupts a call or a close. -/
theorem Yard.whole_after (whole : l.Whole c.outlet) (found : y.hub.connections[place]? = some c)
    {moves : List Move} (steps : ∀ m ∈ moves, m.isWhole = true) :
    ∃ c', (y.ledgerFrom place l moves).Whole (Connection.outlet c') := by
  induction moves generalizing y l c with
  | nil => exact ⟨c, whole⟩
  | cons m rest ih =>
    cases m with
    | hub m =>
      obtain ⟨c', next, noted⟩ := whole.note found m
      exact ih noted next fun m later => steps m (List.mem_cons_of_mem _ later)
    | call | push | checkOut | shut | drain | halt =>
      exact absurd (steps _ List.mem_cons_self) Bool.false_ne_true

end Runs

/-! ## Beginnings -/

namespace Yard

variable {y : Yard}

/-- Only where a connection is are there calls. -/
def Placed (y : Yard) : Prop :=
  ∀ place ∈ y.places, ∃ c, y.hub.connections[place]? = some c

theorem Placed.move (placed : y.Placed) (sound : y.hub.pool.Sound) (m : Move) :
    (y.move m).Placed := by
  -- where a connection is, it stays
  have stays {place : Nat} (there : ∃ c, y.hub.connections[place]? = some c) :
      ∃ c, (y.move m).hub.connections[place]? = some c := by
    obtain ⟨c, found⟩ := there
    obtain ⟨c', next, -⟩ := handled sound found m
    exact ⟨c', next⟩
  intro place here
  cases m with
  | hub | shut | drain | halt => exact stays (placed place here)
  | call p data =>
    cases y.call_cases p data with
    | refused same =>
      rw [same] at here
      exact stays (placed place here)
    | begins found isOpen moved =>
      rw [moved, places, List.map_append] at here
      rcases List.mem_append.mp here with before | new
      · exact stays (placed place before)
      · obtain rfl := List.mem_singleton.mp new
        exact stays ⟨_, found⟩
  | push k =>
    cases y.push_cases k with
    | idle same =>
      rw [same] at here
      exact stays (placed place here)
    | queues under some moved =>
      rw [moved, places_set under] at here
      exact stays (placed place here)
  | checkOut k =>
    cases y.checkOut_cases k with
    | idle same =>
      rw [same] at here
      exact stays (placed place here)
    | returns under moved =>
      rw [moved] at here
      obtain ⟨other, member, rfl⟩ := List.mem_map.mp here
      exact stays (placed _ (List.mem_map_of_mem (List.mem_of_mem_eraseIdx member)))

theorem placed_after (sound : y.hub.pool.Sound) (placed : y.Placed) (moves : List Move) :
    (y.after moves).Placed := by
  induction moves generalizing y with
  | nil => exact placed
  | cons m rest ih => exact ih (sound_move sound m) (placed.move sound m)

theorem placed_new (name : String) (pool : Pool) : (new name pool).Placed :=
  fun _ none => absurd none List.not_mem_nil

/-- Nobody writes to a connection that is still to be opened. -/
theorem Placed.leftAt_end (placed : y.Placed) : y.leftAt y.hub.connections.length = [] := by
  apply List.flatMap_eq_nil_iff.mpr
  intro call member
  apply if_neg
  intro here
  obtain ⟨c, found⟩ := placed call.place (List.mem_map_of_mem member)
  rw [here, List.getElem?_eq_none (Nat.le_refl _)] at found
  exact absurd found (by simp)

end Yard

end Transport

open Transport

/-- **What the peer receives.** Take any hub, calls and closes of which several may be under way at
once, turns of tasks, whatever peers do, and others that use the pool; and a connection opened at
any time that is given one pair of tasks. The peer takes bytes that were queued, in order, and
nothing twice; and as long as no chunk was taken up after one in front of it was returned, what it
has taken is a prefix of all that was queued. While the connection is open and its task has not
stopped, what was taken, the rest of the chunk in hand and what is queued are all of that. Bytes are
counted when their chunk is done, and so the count is never ahead of the peer, and is up with it
when everything went out. As long as calls do not overlap, what was queued is the data of those that
succeeded, then that of a call that a close overtook, of which there is one at most and none while
the connection is open, and as much as the call under way has queued. When nobody interrupts a call
or a close, it is the data of the calls that succeeded, and chunks are taken up in turn. -/
theorem peer_receives_what_is_queued (name : String) {pool : Pool} (sound : pool.Sound)
    (before : List Yard.Move) (host : String) (port : UInt16) (maxPacketSize : Nat)
    (shrinks : Bool) (moves : List Yard.Move) :
    let y := (Yard.new name pool).after before
    let opened := y.move (.hub (.open host port maxPacketSize shrinks))
    let l := opened.ledger y.hub.connections.length moves
    ∃ c, (opened.after moves).hub.connections[y.hub.connections.length]? = some c ∧
      (c.writers.length ≤ 1 →
        c.peer.taken.Sublist l.queued ∧
        (c.isClosed = false ∨ l.marks.skipped = false → c.peer.taken <+: l.queued) ∧
        (c.isClosed = false → (∀ w ∈ c.writers, w.isActive = true) →
          c.peer.taken ++ c.writers.flatMap Writer.unsent ++ c.queue.flatMap Buffer.readable =
            l.queued) ∧
        (c.peer.taken = l.queued → c.outBytes = UInt64.ofNat l.queued.length) ∧
        c.outBytes.toNat ≤ c.peer.taken.length) ∧
      (l.overlapped = false →
        ∃ part, l.queued = (l.succeeded ++ l.overtaken).flatten ++ part ∧
          part <+: l.underWay.getD [] ∧ l.overtaken.length ≤ 1 ∧
          (l.overtaken ≠ [] → c.isClosed = true ∧ l.underWay = none)) ∧
      ((∀ m ∈ moves, m.isWhole = true) →
        l.queued = l.succeeded.flatten ∧ l.marks.skipped = false) := by
  intro y opened l
  have whole : y.hub.pool.Sound := Yard.sound_after sound before
  have placed : y.Placed := Yard.placed_after sound (Yard.placed_new name pool) before
  obtain ⟨opening, found, blank⟩ : ∃ c, opened.hub.connections[y.hub.connections.length]? = some c ∧
      c.outlet = ⟨false, [], [], [], 0⟩ := ⟨_, List.getElem?_concat_length, rfl⟩
  have free : opened.leftAt y.hub.connections.length = [] := placed.leftAt_end
  have kept : opened.hub.pool.Sound := whole
  obtain ⟨c, there, right⟩ :=
    Yard.right_after (Ledger.right_blank blank free) kept found moves
  change l.Right (opened.after moves) y.hub.connections.length c at right
  refine ⟨c, there, fun alone => ?_, fun apart => (right.agrees apart).spec, fun steps => ?_⟩
  · obtain ⟨done, part, rest, lost, ships⟩ := right.ships alone
    have taken : c.peer.taken = done ++ part := ships.taken
    have counted : c.outBytes = UInt64.ofNat done.length := ships.counted
    have unsent : c.writers.flatMap Writer.unsent = rest := ships.hand.unsent
    have inTurn (marked : c.isClosed = false ∨ l.marks.skipped = false) :
        l.marks.skipped = false := by
      rcases marked with isOpen | inTurn
      · cases skipped : l.marks.skipped with
        | false => rfl
        | true => exact absurd (isOpen.symm.trans (ships.shut (.inr skipped))) Bool.false_ne_true
      · exact inTurn
    refine ⟨?_, ?_, ?_, ?_, ?_⟩
    · rw [taken]
      exact ((List.sublist_append_left ..).trans (List.sublist_append_left ..)).trans ships.ordered
    · intro marked
      have all := ships.whole (inTurn marked)
      rw [List.append_assoc, List.append_assoc, ← taken] at all
      exact ⟨_, all.symm⟩
    · intro isOpen active
      have inPlace : l.marks.returned = false := by
        cases returned : l.marks.returned with
        | false => rfl
        | true => exact absurd (isOpen.symm.trans (ships.shut (.inl returned))) Bool.false_ne_true
      rw [ships.whole (inTurn (.inl isOpen)), ships.keeps inPlace active, unsent, taken,
        List.append_nil]
      rfl
    · intro all
      -- nothing is in hand, lost or queued, and so no chunk was broken off
      have sized := ships.sized
      rw [← all, taken] at sized
      simp only [List.length_append] at sized
      have nothing : rest ++ lost = [] := by
        apply List.length_eq_zero_iff.mp
        rw [List.length_append]
        omega
      rw [← all, taken, ships.broken nothing, List.append_nil, counted]
    · rw [counted, taken, List.length_append, UInt64.toNat_ofNat']
      exact Nat.le_trans (Nat.mod_le _ _) (Nat.le_add_right _ _)
  · have fresh : Ledger.Whole {} (Connection.outlet opening) := by
      rw [blank]
      exact ⟨fun closed => absurd closed Bool.false_ne_true,
        fun returned => absurd returned Bool.false_ne_true, rfl, rfl, rfl, rfl⟩
    obtain ⟨last, whole⟩ := Yard.whole_after fresh found steps
    change l.Whole last.outlet at whole
    obtain ⟨part, all, begun, -⟩ := (right.agrees whole.apart).spec
    rw [whole.alone] at begun
    obtain rfl := List.prefix_nil.mp begun
    rw [whole.inTime, List.append_nil, List.append_nil] at all
    exact ⟨all, whole.inTurn⟩

namespace Sample

/-- A connection that is written to in chunks of four bytes. -/
def quay : Yard :=
  (Yard.new "sample" (Pool.new 2 4)).move (.hub (.open "a.db" 3306 16 true))

/-- What the peer has taken after some moves, and the calls that succeeded. -/
def received (moves : List Yard.Move) : Bytes × List Bytes :=
  ((quay.after moves).hub.connections.flatMap (·.peer.taken), (quay.ledger 0 moves).succeeded)

/-- Five bytes in a call that has returned, and three in one that is under way, to a peer that takes
six of them. -/
def shipping : List Yard.Move :=
  [.hub (.start 0), .hub (.act 0 (.take (some 6))), .call 0 [1, 2, 3, 4, 5], .push 0,
    .hub (.send 0 0), .push 0, .hub (.send 0 0), .checkOut 0, .call 0 [6, 7, 8], .push 0,
    .hub (.send 0 0), .hub (.send 0 0), .hub (.send 0 0), .hub (.send 0 0)]

/-- A call whose chunk goes out before it looks whether the connection was closed. -/
def belated : List Yard.Move :=
  [.hub (.start 0), .hub (.act 0 (.take (some 8))), .call 0 [1, 2, 3], .push 0, .hub (.send 0 0),
    .hub (.send 0 0), .shut 0 "bye", .checkOut 0]

/-- A close that has returned the first of two chunks when the writing task takes up the second. -/
def interleaved : List Yard.Move :=
  [.hub (.start 0), .hub (.act 0 (.take (some 8))), .hub (.write 0 [1, 2, 3, 4, 5, 6, 7, 8]),
    .shut 0 "bye", .drain 0, .hub (.send 0 0), .hub (.send 0 0)]

/-- Two pairs of tasks, each of which has one of three chunks in hand when the peer takes bytes. -/
def abreast : List Yard.Move :=
  [.hub (.start 0), .hub (.act 0 (.take (some 0))),
    .hub (.write 0 [1, 2, 3, 4, 5, 6, 7, 8, 9]), .hub (.send 0 0), .hub (.send 0 0),
    .hub (.start 0), .hub (.send 0 1), .hub (.send 0 1), .hub (.act 0 (.take none)),
    .hub (.send 0 0), .hub (.send 0 0), .hub (.send 0 0), .hub (.send 0 1)]

end Sample

open Sample in
/-- The case of three chunks, the last of which is in hand. -/
theorem peer_receives_six_of_eight :
    (Pool.new 2 4).Sound ∧
      ∃ c, (quay.after shipping).hub.connections[0]? = some c ∧
        c.peer.taken = [1, 2, 3, 4, 5, 6] ∧ c.outBytes = 5 ∧
        c.peer.taken ++ c.writers.flatMap Writer.unsent ++ c.queue.flatMap Buffer.readable =
          [1, 2, 3, 4, 5] ++ [6, 7, 8] := by
  have sound : (Pool.new 2 4).Sound := Pool.sound_new 2 (by decide)
  obtain ⟨c, there, bytes, -⟩ :=
    peer_receives_what_is_queued "sample" sound [] "a.db" 3306 16 true shipping
  have here : (quay.after shipping).hub.connections[0]? = some c := there
  have seen : ((quay.after shipping).hub.connections[0]?).map (fun c =>
      (c.writers.map Writer.isActive, c.isClosed, c.peer.taken, c.outBytes)) =
        some ([true], false, [1, 2, 3, 4, 5, 6], 5) := by decide +kernel
  rw [here] at seen
  simp only [Option.map_some, Option.some.injEq, Prod.mk.injEq] at seen
  obtain ⟨active, isOpen, taken, counted⟩ := seen
  have crew : c.writers.length = 1 := by simpa using congrArg List.length active
  have all : ∀ w ∈ c.writers, w.isActive = true := by
    intro w member
    have := List.mem_map_of_mem (f := Writer.isActive) member
    rw [active] at this
    exact List.mem_singleton.mp this
  obtain ⟨-, -, whole, -⟩ := bytes (Nat.le_of_eq crew)
  have queued : (quay.ledger 0 shipping).queued = [1, 2, 3, 4, 5] ++ [6, 7, 8] := by
    decide +kernel
  exact ⟨sound, c, here, taken, counted, (whole isOpen all).trans queued⟩

open Sample in
/-- What the peer has taken need not be a prefix of what was written by calls that succeeded: a call
may fail after its data went out, a close may return a chunk in front of one that goes out, and with
two pairs of tasks chunks go out side by side. -/
theorem peer_receives_more_or_less :
    received belated = ([1, 2, 3], []) ∧
      received interleaved = ([5, 6, 7, 8], [[1, 2, 3, 4, 5, 6, 7, 8]]) ∧
      received abreast = ([1, 2, 3, 4, 9, 5, 6, 7, 8], [[1, 2, 3, 4, 5, 6, 7, 8, 9]]) ∧
      ∀ moves ∈ [belated, interleaved, abreast],
        ¬ (received moves).1 <+: (received moves).2.flatten := by
  decide +kernel

end AtomicCommit
