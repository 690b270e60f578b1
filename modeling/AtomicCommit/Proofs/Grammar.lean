import AtomicCommit.Proofs.Forms
import Mathlib.Computability.Language

/-!
# The grammar of replies

The events that a link makes of the packets it is sent are the beginning of a sequence of replies,
and every such sequence comes from packets of the right forms.

* **many packets** — `State.walk_eq_ok_iff`, by induction on the packets.
* **one reply** — `State.admits_reply` and `State.Underway.next`: a reply leads from idle back to
  idle, and what leads elsewhere is part of one.
* **replies** — `State.idle_admits_iff`, `State.end_eq_idle_iff` and `State.walk_replies`.
-/

namespace AtomicCommit.Wire.Reply

open Computability

/-! ## Replies -/

/-- The events of a result set with so many columns and rows. -/
def resultSetOf (columns rows : Nat) : List Event :=
  .resultSet columns :: (List.replicate columns .column ++
    .columnsEnd :: (List.replicate rows .row ++ [.rowsEnd]))

/-- The events of one reply. An error may take the place of the rest of a result set. -/
inductive IsReply : List Event → Prop
  | ok : IsReply [.ok]
  | error (e : ServerError) : IsReply [.error e]
  | rows {columns : Nat} (some : 0 < columns) (rows : Nat) : IsReply (resultSetOf columns rows)
  | cut {columns rows : Nat} {begun rest : List Event} (some : 0 < columns)
      (split : begun ++ rest = resultSetOf columns rows) (early : begun ≠ []) (late : rest ≠ [])
      (e : ServerError) : IsReply (begun ++ [.error e])

/-- The replies, as words of events. -/
def replies : Language Event :=
  { es | IsReply es }

namespace State

variable {s t : State} {e : Event} {p : Packet}

/-! ## Walks -/

/-- Tell what the packets mean, one after the other, as long as each means something. -/
def walk (s : State) : List Packet → Except ProtocolError (State × List Event)
  | [] => .ok (s, [])
  | p :: rest =>
    match s.step p with
    | (_, .error cause) => .error cause
    | (t, .ok e) => (t.walk rest).map fun out => (out.1, e :: out.2)

/-- The events can come one after the other. -/
def Admits (s : State) : List Event → Prop
  | [] => True
  | e :: es => s.Expects e ∧ (s.past e).Admits es

variable {es fs : List Event}

theorem walk_cons_eq_ok_iff {ps : List Packet} :
    s.walk (p :: ps) = .ok (t, es) ↔
      ∃ next e rest, s.step p = (next, .ok e) ∧ next.walk ps = .ok (t, rest) ∧ es = e :: rest := by
  constructor
  · intro h
    rw [walk] at h
    cases step : s.step p with
    | mk next meaning =>
      rw [step] at h
      cases meaning with
      | error cause => exact absurd h (by simp)
      | ok e =>
        cases walk : next.walk ps with
        | error cause => simp [walk, Except.map] at h
        | ok out =>
          obtain ⟨last, rest⟩ := out
          simp only [walk, Except.map] at h
          obtain ⟨rfl, rfl⟩ := Prod.mk.inj (Except.ok.inj h)
          exact ⟨next, e, rest, rfl, walk, rfl⟩
  · rintro ⟨next, e, rest, step, walk, rfl⟩
    simp [State.walk, step, walk, Except.map]

theorem walk_eq_ok_iff {ps : List Packet} :
    s.walk ps = .ok (t, es) ↔
      s.Admits es ∧ List.Forall₂ Event.Form es ps ∧ t = es.foldl past s := by
  induction ps generalizing s es with
  | nil =>
    rw [List.forall₂_nil_right_iff]
    constructor
    · intro h
      obtain ⟨rfl, rfl⟩ := Prod.mk.inj (Except.ok.inj h)
      exact ⟨trivial, rfl, rfl⟩
    · rintro ⟨-, rfl, rfl⟩
      rfl
  | cons p ps ih =>
    rw [walk_cons_eq_ok_iff, List.forall₂_cons_right_iff]
    constructor
    · rintro ⟨next, e, rest, step, walk, rfl⟩
      obtain ⟨expects, form, rfl⟩ := step_eq_ok_iff.mp step
      obtain ⟨admits, forms, rfl⟩ := ih.mp walk
      exact ⟨⟨expects, admits⟩, ⟨e, rest, form, forms, rfl⟩, rfl⟩
    · rintro ⟨admits, ⟨e, rest, form, forms, rfl⟩, rfl⟩
      obtain ⟨expects, admits⟩ := admits
      exact ⟨s.past e, e, rest, step_of_form expects form, ih.mpr ⟨admits, forms, rfl⟩, rfl⟩

theorem admits_append : s.Admits (es ++ fs) ↔ s.Admits es ∧ (es.foldl past s).Admits fs := by
  induction es generalizing s with
  | nil => simp [Admits]
  | cons e es ih => simp [Admits, ih, and_assoc]

/-! ## One reply -/

/-- So many column definitions lead to their end. -/
theorem admits_columns {count : Nat} (some : 0 < count) :
    (columns count).Admits (List.replicate count .column) ∧
      (List.replicate count Event.column).foldl past (columns count) = .columnsEnd := by
  induction count with
  | zero => exact absurd some (Nat.lt_irrefl 0)
  | succ n ih =>
    rw [List.replicate_succ]
    by_cases last : n = 0
    · subst last
      exact ⟨⟨.column _, trivial⟩, rfl⟩
    · have next : (columns (n + 1)).past .column = columns n := by
        have more : ¬ n + 1 ≤ 1 := by omega
        exact if_neg more
      obtain ⟨admits, ends⟩ := ih (Nat.pos_of_ne_zero last)
      refine ⟨⟨.column _, ?_⟩, ?_⟩
      · rw [next]
        exact admits
      · rw [List.foldl_cons, next]
        exact ends

theorem admits_rows (count : Nat) :
    rows.Admits (List.replicate count .row) ∧
      (List.replicate count Event.row).foldl past rows = .rows := by
  induction count with
  | zero => exact ⟨trivial, rfl⟩
  | succ n ih =>
    rw [List.replicate_succ]
    exact ⟨⟨.row, ih.1⟩, ih.2⟩

theorem admits_resultSet {count : Nat} (some : 0 < count) (told : Nat) :
    idle.Admits (resultSetOf count told) ∧ (resultSetOf count told).foldl past idle = .idle := by
  obtain ⟨columns, columnsEnd⟩ := admits_columns some
  obtain ⟨rows, stays⟩ := admits_rows told
  constructor
  · refine ⟨.resultSet some, admits_append.mpr ⟨columns, ?_⟩⟩
    rw [past, columnsEnd]
    refine ⟨.columnsEnd, admits_append.mpr ⟨rows, ?_⟩⟩
    rw [past, stays]
    exact ⟨.rowsEnd, trivial⟩
  · rw [resultSetOf, List.foldl_cons, List.foldl_append, past, columnsEnd, List.foldl_cons,
      List.foldl_append, past, stays]
    rfl

/-- A reply leads from idle back to idle. -/
theorem admits_reply (reply : IsReply es) : idle.Admits es ∧ es.foldl past idle = .idle := by
  cases reply with
  | ok => exact ⟨⟨.ok, trivial⟩, rfl⟩
  | error e => exact ⟨⟨.error _ e, trivial⟩, rfl⟩
  | rows some rows => exact admits_resultSet some rows
  | cut some split early late e =>
    rename_i count told begun rest
    have whole := (admits_resultSet some told).1
    rw [← split, admits_append] at whole
    refine ⟨admits_append.mpr ⟨whole.1, .error _ e, trivial⟩, ?_⟩
    rw [List.foldl_concat, past_error]

/-- What has come of the reply that is going on. -/
inductive Underway : State → List Event → Prop
  | nothing : Underway .idle []
  | columns (told : Nat) {remaining : Nat} (some : 0 < remaining) :
      Underway (.columns remaining) (.resultSet (told + remaining) :: List.replicate told .column)
  | columnsEnd {count : Nat} (some : 0 < count) :
      Underway .columnsEnd (.resultSet count :: List.replicate count .column)
  | rows {count : Nat} (some : 0 < count) (told : Nat) :
      Underway .rows
        (.resultSet count ::
          (List.replicate count .column ++ .columnsEnd :: List.replicate told .row))

namespace Underway

/-- It can be made whole. -/
theorem split (underway : s.Underway es) (busy : s ≠ .idle) :
    ∃ count told rest, 0 < count ∧ es ++ rest = resultSetOf count told ∧ es ≠ [] ∧ rest ≠ [] := by
  cases underway with
  | nothing => exact absurd rfl busy
  | columns told some =>
    rename_i remaining
    refine ⟨told + remaining, 0, List.replicate remaining .column ++ [.columnsEnd, .rowsEnd],
      by omega, ?_, List.cons_ne_nil _ _, by simp⟩
    rw [resultSetOf, ← List.replicate_append_replicate, List.append_assoc]
    rfl
  | columnsEnd some =>
    rename_i count
    exact ⟨count, 0, [.columnsEnd, .rowsEnd], some, rfl, List.cons_ne_nil _ _, List.cons_ne_nil _ _⟩
  | rows some told =>
    rename_i count
    refine ⟨count, told, [.rowsEnd], some, ?_, List.cons_ne_nil _ _, List.cons_ne_nil _ _⟩
    simp [resultSetOf]

/-- The next event goes on with the reply or is its last one. -/
theorem next (underway : s.Underway es) (expects : s.Expects e) :
    (s.past e).Underway (es ++ [e]) ∨ s.past e = .idle ∧ IsReply (es ++ [e]) := by
  cases expects with
  | error s e =>
    refine .inr ⟨past_error s e, ?_⟩
    by_cases busy : s = .idle
    · subst busy
      cases underway
      exact .error e
    · -- an error cuts short what was told so far
      obtain ⟨count, told, rest, some, split, early, late⟩ := underway.split busy
      exact .cut some split early late e
  | ok =>
    cases underway
    exact .inr ⟨rfl, .ok⟩
  | resultSet some =>
    rename_i count
    cases underway
    have first := Underway.columns 0 some
    rw [Nat.zero_add] at first
    exact .inl first
  | column remaining =>
    cases underway with
    | columns told some =>
      left
      rw [List.cons_append, ← List.replicate_succ']
      -- the last column leads on to the end of the columns
      by_cases last : remaining ≤ 1
      · obtain rfl : remaining = 1 := by omega
        exact .columnsEnd (Nat.succ_pos told)
      · have left : 0 < remaining - 1 := by omega
        have more := Underway.columns (told + 1) left
        rw [show told + 1 + (remaining - 1) = told + remaining by omega] at more
        rw [past, if_neg last]
        exact more
  | columnsEnd =>
    cases underway with
    | columnsEnd some =>
      have first := Underway.rows some 0
      exact .inl first
  | row =>
    cases underway with
    | rows some told =>
      have more := Underway.rows some (told + 1)
      rw [List.replicate_succ'] at more
      left
      simpa [past] using more
  | rowsEnd =>
    cases underway with
    | rows some told =>
      have whole := IsReply.rows some told
      right
      refine ⟨rfl, ?_⟩
      simpa [resultSetOf] using whole

end Underway

/-! ## Replies -/

theorem admits_replies (whole : es ∈ replies∗) : idle.Admits es ∧ es.foldl past idle = .idle := by
  obtain ⟨parts, rfl, each⟩ := Language.mem_kstar.mp whole
  clear whole
  induction parts with
  | nil => exact ⟨trivial, rfl⟩
  | cons part parts ih =>
    rw [List.forall_mem_cons] at each
    obtain ⟨admits, ends⟩ := admits_reply each.1
    obtain ⟨rest, last⟩ := ih each.2
    rw [List.flatten_cons, admits_append, List.foldl_append, ends]
    exact ⟨⟨admits, rest⟩, last⟩

theorem append_mem_replies (whole : es ∈ replies∗) (reply : IsReply fs) :
    es ++ fs ∈ replies∗ := by
  obtain ⟨parts, rfl, each⟩ := Language.mem_kstar.mp whole
  refine ⟨parts ++ [fs], by simp, ?_⟩
  rw [List.forall_mem_append, List.forall_mem_singleton]
  exact ⟨each, reply⟩

/-- The events are replies and what has come of one more. -/
theorem exists_underway (admits : idle.Admits es) :
    ∃ whole part, es = whole ++ part ∧ whole ∈ replies∗ ∧ (es.foldl past idle).Underway part := by
  induction es using List.reverseRecOn with
  | nil => exact ⟨[], [], rfl, Language.nil_mem_kstar _, .nothing⟩
  | append_singleton es e ih =>
    obtain ⟨before, expects, -⟩ := admits_append.mp admits
    obtain ⟨whole, part, split, replies, underway⟩ := ih before
    rw [List.foldl_concat]
    obtain goes | ⟨ends, reply⟩ := underway.next expects
    · exact ⟨whole, part ++ [e], by rw [split, List.append_assoc], replies, goes⟩
    · rw [ends]
      refine ⟨es ++ [e], [], (List.append_nil _).symm, ?_, .nothing⟩
      rw [split, List.append_assoc]
      exact append_mem_replies replies reply

/-- The events that can come one after the other are the beginnings of sequences of replies. -/
theorem idle_admits_iff : idle.Admits es ↔ ∃ word ∈ replies∗, es <+: word := by
  constructor
  · intro admits
    obtain ⟨whole, part, rfl, replies, underway⟩ := exists_underway admits
    by_cases busy : (whole ++ part).foldl past idle = .idle
    · rw [busy] at underway
      cases underway
      exact ⟨whole, replies, by rw [List.append_nil]⟩
    · obtain ⟨count, told, rest, some, split, -, -⟩ := underway.split busy
      refine ⟨whole ++ (part ++ rest), append_mem_replies replies (split ▸ .rows some told), ?_⟩
      rw [← List.append_assoc]
      exact List.prefix_append _ _
  · rintro ⟨word, whole, rest, rfl⟩
    exact (admits_append.mp (admits_replies whole).1).1

/-- The link is idle behind whole replies, and only there. -/
theorem end_eq_idle_iff (admits : idle.Admits es) :
    es.foldl past idle = .idle ↔ es ∈ replies∗ := by
  constructor
  · intro ends
    obtain ⟨whole, part, split, replies, underway⟩ := exists_underway admits
    rw [ends] at underway
    cases underway
    rw [split, List.append_nil]
    exact replies
  · intro whole
    exact (admits_replies whole).2

/-- The packets mean the beginning of a sequence of replies exactly where they have the forms of
its events, and the link is idle behind whole replies, and only there. -/
theorem walk_replies (packets : List Packet) (events : List Event) :
    ((∃ last, idle.walk packets = .ok (last, events)) ↔
        (∃ word ∈ replies∗, events <+: word) ∧ List.Forall₂ Event.Form events packets) ∧
      ∀ last, idle.walk packets = .ok (last, events) →
        (last.isIdle = true ↔ events ∈ replies∗) := by
  constructor
  · rw [← idle_admits_iff]
    constructor
    · rintro ⟨last, walk⟩
      obtain ⟨admits, forms, -⟩ := walk_eq_ok_iff.mp walk
      exact ⟨admits, forms⟩
    · rintro ⟨admits, forms⟩
      exact ⟨_, walk_eq_ok_iff.mpr ⟨admits, forms, rfl⟩⟩
  · intro last walk
    obtain ⟨admits, -, rfl⟩ := walk_eq_ok_iff.mp walk
    rw [isIdle, beq_iff_eq]
    exact end_eq_idle_iff admits

/-- Two columns, of which the count takes three bytes, and an error behind the first row. -/
theorem cut_rows_mem_replies :
    idle.walk ([[0xFC, 2, 0], [0xFE], [0], [0xFE, 0, 0, 2, 0], [0xFB], [0xFF, 0x51, 4]].map
        (Packet.mk 1)) =
      .ok (.idle, [.resultSet 2, .column, .column, .columnsEnd, .row, .error ⟨1105, none, ""⟩]) ∧
    [.resultSet 2, .column, .column, .columnsEnd, .row, .error ⟨1105, none, ""⟩] ∈ replies∗ :=
  have walk := by rfl
  ⟨walk, ((walk_replies _ _).2 _ walk).mp rfl⟩

end State

end AtomicCommit.Wire.Reply
