import AtomicCommit.Proofs.Counting
import AtomicCommit.Proofs.Reading
import AtomicCommit.Proofs.Spelling

/-!
# What the sizes among the options are good for

Two options of a link are sizes that have to be positive: that of the chunks that it reads into, and
the longest payload that it accepts. Without the first there would be no room to read into, and
without the second nothing but empty frames would be handed over. The first is checked when the
options are read. The second is not, and a URL that sets it to zero is accepted.

* **views** — `Hub.map_settle`, `Hub.map_shrink`, `Hub.limits_read`: what the turns of a reading
  task leave alone.
* **one round** — `Hub.round_spec`: a task takes in some of what has arrived and hands over the
  frames that are complete by then.
* **all rounds** — `Hub.rounds_complete` and `Hub.rounds_sound`: in the end it has handed over all
  complete frames up to the limit, and never anything else.
* **options** — `Hub.handedOver_iff` for a connection that is made with some options, and from it
  `limits_of_accepted`.
-/

namespace AtomicCommit

open Wire

namespace Transport.Hub

variable {h : Hub} {place crew limit : Nat} {c : Connection} {reader : Reader} {data : Bytes}

/-! ## Views -/

section Views

variable {α : Type} {g : Connection → α}

theorem map_update {other : Nat} {f : Connection → Connection} (blind : ∀ c, g (f c) = g c) :
    (h.update other f).connections.map g = h.connections.map g :=
  map_modify_of_same fun c _ => blind c

/-- Behind the frames of a turn nothing of a connection changes but where its task is. -/
theorem map_settle (blind : ∀ c crew reader, g (c.setReader crew reader) = g c) (split : Split) :
    (h.settle place crew split).1.connections.map g = h.connections.map g := by
  unfold settle
  split
  · rfl
  · split
    · dsimp only
      split
      · exact map_update fun c => blind c _ _
      · exact map_update fun c => blind c _ _
    · rfl

theorem map_shrink (blind : ∀ c crew reader, g (c.setReader crew reader) = g c) :
    (h.shrink place crew).connections.map g = h.connections.map g := by
  unfold shrink
  split
  · rfl
  · split
    · split
      · exact map_update fun c => blind c _ _
      · rfl
    · rfl

end Views

theorem incoming_eq_map :
    h.incoming place = (h.connections.map (·.peer.incoming))[place]?.getD [] := by
  unfold incoming
  rw [List.getElem?_map]
  cases h.connections[place]? <;> rfl

theorem incoming_settle (h : Hub) (place crew : Nat) (split : Split) :
    (h.settle place crew split).1.incoming place = h.incoming place := by
  simp only [incoming_eq_map]
  rw [map_settle fun _ _ _ => rfl]

theorem incoming_shrink : (h.shrink place crew).incoming place = h.incoming place := by
  simp only [incoming_eq_map]
  rw [map_shrink fun _ _ _ => rfl]

/-- The longest payloads that the connections read. -/
def limits (h : Hub) : List Nat :=
  h.connections.map Connection.maxPacketSize

theorem limits_readInto (c : Connection) (b : Buffer) :
    (h.readInto place crew c b).1.limits = h.limits := by
  unfold readInto
  dsimp only
  split
  · exact map_update fun _ => rfl
  · exact map_update fun _ => rfl
  · exact map_update fun _ => rfl
  · exact map_update fun _ => rfl

theorem limits_readOn (c : Connection) (b : Buffer) :
    (h.readOn place crew c b).1.limits = h.limits := by
  unfold readOn
  split
  · exact map_update fun _ => rfl
  · exact limits_readInto c _

theorem limits_read (h : Hub) (place crew : Nat) : (h.read place crew).1.limits = h.limits := by
  unfold read
  split
  · rfl
  · split
    · exact limits_readOn _ _
    · exact limits_readOn _ _
    · exact limits_readInto _ _
    · exact map_update fun _ => rfl
    · rfl

/-- Whatever a turn cuts, it cuts it by the limit of its connection. -/
def Cuts (limit : Nat) (turn : Turn) : Prop :=
  ∀ service split, turn = .frames service split → ∃ data, split = Split.ofBytes limit data

theorem cuts_readInto (limited : c.maxPacketSize = limit) (b : Buffer) :
    Cuts limit (h.readInto place crew c b).2 := by
  intro service split turn
  unfold readInto at turn
  dsimp only at turn
  split at turn
  · simp at turn
  · simp at turn
  · simp at turn
  · obtain ⟨-, rfl⟩ := Turn.frames.inj turn
    exact ⟨_, by rw [limited]⟩

theorem cuts_readOn (limited : c.maxPacketSize = limit) (b : Buffer) :
    Cuts limit (h.readOn place crew c b).2 := by
  unfold readOn
  split
  · simp [Cuts]
  · exact cuts_readInto limited _

theorem cuts_read (crew : Nat) (limited : h.limits[place]? = some limit) :
    Cuts limit (h.read place crew).2 := by
  unfold read
  split
  · simp [Cuts]
  · rename_i c found
    have limited : c.maxPacketSize = limit := by
      simpa [limits, found] using limited
    split
    · exact cuts_readOn limited _
    · exact cuts_readOn limited _
    · exact cuts_readInto limited _
    · simp [Cuts]
    · simp [Cuts]

/-! ## Rounds -/

/-- A reading task takes in what has arrived, hands over the frames, and goes on if it may. -/
def round (h : Hub) (place crew : Nat) : Hub × List Bytes :=
  match h.read place crew with
  | (h, .frames _ split) =>
    match h.settle place crew split with
    | (h, none) => (h.shrink place crew, split.frames)
    | (h, some _) => (h, split.frames)
  | (h, _) => (h, [])

/-- Several rounds, and all that is handed over in them. -/
def rounds (h : Hub) (place crew : Nat) : Nat → Hub × List Bytes
  | 0 => (h, [])
  | n + 1 =>
    let (h, frames) := h.round place crew
    let (h, more) := h.rounds place crew n
    (h, frames ++ more)

theorem rounds_succ (h : Hub) (place crew n : Nat) :
    (h.rounds place crew (n + 1)).2 =
      (h.round place crew).2 ++ ((h.round place crew).1.rounds place crew n).2 := rfl

/-- **A round** of a task with something to read. It cuts what it has in hand together with what it
reads, and keeps what is left, unless that exceeds the limit. -/
theorem round_spec (serves : h.Finds place crew limit c reader) (holds : reader.Holds data)
    (arrived : h.incoming place ≠ []) :
    ∃ more, more ≠ [] ∧ h.incoming place = more ++ (h.round place crew).1.incoming place ∧
      (h.round place crew).2 = (Split.ofBytes limit (data ++ more)).frames ∧
      ((∀ n, ¬ Exceeds limit (Split.ofBytes limit (data ++ more)).left n) →
        ∃ b, (h.round place crew).1.Serves place crew limit (.reading b) ∧
          Intake.Holds b (Split.ofBytes limit (data ++ more)).left) := by
  obtain ⟨more, service, b, some, came, turn, ⟨d, reads⟩, inHand⟩ :=
    (read_spec serves holds).frames arrived
  obtain ⟨stops, goesOn⟩ := settle_spec reads inHand
  have kept := incoming_settle (h.read place crew).1 place crew
    (Split.ofBytes limit (data ++ more))
  have became : h.read place crew =
      ((h.read place crew).1, .frames service (Split.ofBytes limit (data ++ more))) :=
    Prod.ext rfl turn
  refine ⟨more, some, ?_⟩
  unfold round
  rw [became]
  dsimp only
  cases ends : (h.read place crew).1.settle place crew (Split.ofBytes limit (data ++ more)) with
  | mk last stop =>
  rw [ends] at kept stops goesOn
  cases stop with
  | some reason =>
    -- a task that stops for a rest over the limit has handed over what is in front of it
    refine ⟨by rw [kept]; exact came, rfl, ?_⟩
    intro within
    exact absurd (goesOn within).1 (by simp)
  | none =>
    refine ⟨by rw [incoming_shrink, kept]; exact came, rfl, ?_⟩
    intro within
    obtain ⟨-, b, ⟨d, settled⟩, left⟩ := goesOn within
    exact shrink_spec settled left

/-- **Complete.** All complete frames at the front of what a task has in hand and of what has
arrived are handed over in some number of rounds. -/
theorem rounds_complete (serves : h.Serves place crew limit reader) (holds : reader.Holds data)
    (none : ∀ frame behind, data = frame ++ behind → ¬ IsWhole limit frame) :
    ∃ n, (h.rounds place crew n).2 =
      (Split.ofBytes limit (data ++ h.incoming place)).frames := by
  -- each round reads one byte at least
  generalize size : (h.incoming place).length = bytes
  induction bytes using Nat.strongRecOn generalizing h reader data with
  | _ bytes ih =>
  by_cases arrived : h.incoming place = []
  · refine ⟨0, ?_⟩
    have blank : Cut limit data [] data := ⟨rfl, by simp, none⟩
    rw [arrived, List.append_nil, blank.frames_eq]
    rfl
  · obtain ⟨c, finds⟩ := serves
    obtain ⟨more, some, came, frames, goesOn⟩ := round_spec finds holds arrived
    have first := cut_ofBytes limit (data ++ more)
    generalize remains : (h.round place crew).1.incoming place = rest at came
    rw [came, ← List.append_assoc]
    by_cases within : ∀ n, ¬ Exceeds limit (Split.ofBytes limit (data ++ more)).left n
    · obtain ⟨b, serves, inHand⟩ := goesOn within
      have fewer : rest.length < bytes := by
        have positive := List.length_pos_iff.mpr some
        have both := congrArg List.length came
        rw [List.length_append] at both
        omega
      obtain ⟨n, others⟩ := ih rest.length fewer serves inHand first.ends (congrArg _ remains)
      rw [remains] at others
      have whole := first.extend (cut_ofBytes limit (_ ++ rest))
      refine ⟨n + 1, ?_⟩
      rw [rounds_succ, frames, others, whole.frames_eq]
    · -- nothing behind a frame over the limit is ever cut
      simp only [not_forall, not_not] at within
      obtain ⟨length, exceeds⟩ := within
      have last := first.extend (Cut.of_exceeds (exceeds.append rest))
      refine ⟨1, ?_⟩
      rw [rounds_succ, frames, last.frames_eq]
      rfl

/-- What a round can come to: a turn that brings no frames, or one that brings some, behind which the
task stops or goes on. -/
theorem round_cases (h : Hub) (place crew : Nat) :
    h.round place crew = ((h.read place crew).1, []) ∨
      ∃ service split k, (h.read place crew).2 = .frames service split ∧
        k = ((h.read place crew).1.settle place crew split).1 ∧
        (h.round place crew = (k, split.frames) ∨
          h.round place crew = (k.shrink place crew, split.frames)) := by
  unfold round
  cases h.read place crew with
  | mk k turn =>
  cases turn with
  | wait | leave | fail => exact .inl rfl
  | frames service split =>
    refine .inr ⟨service, split, _, rfl, rfl, ?_⟩
    dsimp only
    cases k.settle place crew split with
    | mk last stop =>
    cases stop with
    | none => exact .inr rfl
    | some reason => exact .inl rfl

theorem limits_round (h : Hub) (place crew : Nat) :
    (h.round place crew).1.limits = h.limits := by
  have reads := limits_read h place crew
  rcases round_cases h place crew with same | ⟨-, split, k, -, rfl, same⟩
  · rw [same]
    exact reads
  · have settles : ((h.read place crew).1.settle place crew split).1.limits = h.limits :=
      (map_settle (fun _ _ _ => rfl) split).trans reads
    rcases same with same | same
    · rw [same]
      exact settles
    · rw [same]
      exact (map_shrink fun _ _ _ => rfl).trans settles

theorem isWhole_of_mem_round (limited : h.limits[place]? = some limit) :
    ∀ frame ∈ (h.round place crew).2, IsWhole limit frame := by
  rcases round_cases h place crew with same | ⟨service, split, k, turn, -, same⟩
  · simp [same]
  · obtain ⟨data, rfl⟩ := cuts_read crew limited service split turn
    have frames : (h.round place crew).2 = (Split.ofBytes limit data).frames := by
      rcases same with same | same
      · rw [same]
      · rw [same]
    rw [frames]
    exact (cut_ofBytes limit data).complete

/-- **Sound.** Nothing is handed over but complete frames up to the limit. -/
theorem rounds_sound {n : Nat} (limited : h.limits[place]? = some limit) :
    ∀ frame ∈ (h.rounds place crew n).2, IsWhole limit frame := by
  induction n generalizing h with
  | zero => simp [rounds]
  | succ n ih =>
    intro frame mem
    rw [rounds_succ, List.mem_append] at mem
    rcases mem with now | later
    · exact isWhole_of_mem_round limited frame now
    · exact ih ((limits_round h place crew).symm ▸ limited) frame later

/-! ## Connections made with options -/

/-- A new connection made with these options, its tasks started, whose peer has sent these bytes.
How soon it gives up larger buffers makes no difference to what follows. -/
def connect (h : Hub) (o : Options) (shrinks : Bool) (sent : Bytes) : Hub :=
  let place := h.connections.length
  ((h.open o.host o.port o.maxPacketSize shrinks).start place).1.update place
    fun c => { c with peer := c.peer.act (.send sent) }

/-- What such a connection hands over in so many rounds of its reading task. -/
def handedOver (h : Hub) (o : Options) (shrinks : Bool) (sent : Bytes) (n : Nat) : List Bytes :=
  ((h.connect o shrinks sent).rounds h.connections.length 0 n).2

section Connect

variable {o : Options} {shrinks : Bool} {sent : Bytes}

theorem connection_connect (h : Hub) (o : Options) (shrinks : Bool) (sent : Bytes) :
    (h.connect o shrinks sent).connections[h.connections.length]? = some {
      id := h.connections.length + 1
      host := o.host
      port := o.port
      maxPacketSize := o.maxPacketSize
      shrinks := shrinks
      readers := [.starting]
      writers := [.idle]
      peer := { incoming := sent } } := by
  simp [connect, «open», start, update, Connection.addCrew, Peer.act]

theorem pool_connect (h : Hub) (o : Options) (shrinks : Bool) (sent : Bytes) :
    (h.connect o shrinks sent).pool = h.pool := by
  simp [connect, «open», start, update]

theorem limits_connect : (h.connect o shrinks sent).limits[h.connections.length]? =
    some o.maxPacketSize := by
  rw [limits, List.getElem?_map, connection_connect]
  rfl

/-- With chunks of some size to read into, the complete frames up to the limit are handed over, as
many as there are in front. -/
theorem handedOver_complete (o : Options) (shrinks : Bool) (sent : Bytes)
    (sound : h.pool.Sound) :
    ∃ n, h.handedOver o shrinks sent n = (Split.ofBytes o.maxPacketSize sent).frames := by
  have found := connection_connect h o shrinks sent
  have serves : (h.connect o shrinks sent).Serves h.connections.length 0 o.maxPacketSize
      .starting := ⟨_, found, rfl, rfl, rfl, by rw [pool_connect]; exact sound⟩
  have arrived : (h.connect o shrinks sent).incoming h.connections.length = sent := by
    rw [incoming, found]
    rfl
  have complete := rounds_complete serves (show Reader.starting.Holds [] from rfl)
    (Cut.nil o.maxPacketSize).ends
  rwa [arrived] at complete

theorem handedOver_sound {n : Nat} :
    ∀ frame ∈ h.handedOver o shrinks sent n, IsWhole o.maxPacketSize frame :=
  rounds_sound limits_connect

/-- What can be handed over at all. -/
theorem handedOver_iff (o : Options) (shrinks : Bool) (sound : h.pool.Sound) {frame : Bytes} :
    (∃ sent n, frame ∈ h.handedOver o shrinks sent n) ↔ IsWhole o.maxPacketSize frame := by
  constructor
  · rintro ⟨sent, n, mem⟩
    exact handedOver_sound frame mem
  · intro isWhole
    obtain ⟨n, complete⟩ := handedOver_complete o shrinks frame sound
    have alone := isWhole.ofBytes_append []
    rw [List.append_nil] at alone
    refine ⟨frame, n, ?_⟩
    rw [complete, alone]
    exact List.mem_cons_self

end Connect

end Transport.Hub

/-! ## Options that are accepted -/

theorem exists_isWhole_iff {limit : Nat} :
    (∃ frame, IsWhole limit frame ∧ headerSize < frame.length) ↔ 0 < limit := by
  constructor
  · rintro ⟨frame, isWhole, some⟩
    have := isWhole.length_le
    omega
  · intro positive
    exact ⟨[1, 0, 0, 0, 0], ⟨_, rfl, rfl, positive⟩, by decide⟩

open Transport

/-- **Limits.** Options that are accepted have a size of chunks to read into that is positive. So is
their limit of payloads, unless the last pair that sets it sets it to zero, which is not refused. A
connection made with them, on a hub over their pool, hands over the complete frames whose payloads
are up to the limit, each of them if its peer sends it, and no others. So it can hand over a frame
with a payload exactly if the limit is positive. -/
theorem limits_of_accepted {url : Url} {o : Options} (accepted : Options.ofUrl url = .ok o) :
    0 < o.readChunk ∧
    (0 < o.maxPacketSize ↔
      ∀ value, lastValue url.pairs .maxPacketSize = some value → numeral value ≠ 0) ∧
    ∀ (h : Hub) (shrinks : Bool), h.pool.Stocked → h.pool.chunkSize = o.pool.chunkSize →
      (∀ frame, (∃ sent n, frame ∈ h.handedOver o shrinks sent n) ↔
        IsWhole o.maxPacketSize frame) ∧
      (0 < o.maxPacketSize ↔
        ∃ sent n, ∃ frame ∈ h.handedOver o shrinks sent n, headerSize < frame.length) := by
  obtain ⟨-, allowed, rfl⟩ := ofUrl_eq_ok_iff.mp accepted
  have chunks : 0 < (Options.spelled url).readChunk := by
    simp only [Options.spelled]
    cases last : lastValue url.pairs .readChunk with
    | none => exact Nat.zero_lt_succ _
    | some value =>
      obtain ⟨-, positive⟩ := allowed .readChunk value (mem_of_lastValue last)
      exact Nat.pos_of_ne_zero positive
  refine ⟨chunks, ?_, ?_⟩
  · simp only [Options.spelled]
    cases last : lastValue url.pairs .maxPacketSize with
    | none => simp
    | some value => simp [Nat.pos_iff_ne_zero]
  · intro h shrinks stocked same
    have sound : h.pool.Sound := by
      refine ⟨?_, stocked⟩
      rw [same, Options.chunkSize_spelled]
      exact chunks
    refine ⟨fun frame => Hub.handedOver_iff _ shrinks sound, ?_⟩
    rw [← exists_isWhole_iff]
    simp only [← Hub.handedOver_iff (Options.spelled url) shrinks sound]
    constructor
    · rintro ⟨frame, ⟨sent, n, mem⟩, some⟩
      exact ⟨sent, n, frame, mem, some⟩
    · rintro ⟨sent, n, frame, mem, some⟩
      exact ⟨frame, ⟨sent, n, mem⟩, some⟩

namespace Sample

/-- The limit is set to zero, and then to five. -/
def limitedTwice : Url where
  scheme := "mysql"
  query := some "max_packet_size=0&read_buffer_chunk=2&max_packet_size=5"

/-- A hub with chunks of two bytes. -/
def narrow : Hub where
  name := "narrow"
  pool := Pool.new 4 2

end Sample

open Sample in
/-- The case of a limit that is zero only for as long as it takes to read the next pair but one. -/
theorem limits_set_twice :
    ∃ o, Options.ofUrl limitedTwice = .ok o ∧ o.readChunk = 2 ∧ o.maxPacketSize = 5 ∧
      ∃ sent n, ∃ frame ∈ narrow.handedOver o true sent n, headerSize < frame.length := by
  have accepted : Options.ofUrl limitedTwice = .ok {
      host := "localhost", readChunk := 2, maxPacketSize := 5, pool := .dedicated 128 2 } := by
    decide +kernel
  obtain ⟨-, -, hands⟩ := limits_of_accepted accepted
  obtain ⟨-, some⟩ := hands narrow true (Pool.stocked_new 4 2) rfl
  exact ⟨_, accepted, rfl, rfl, some.mp (Nat.zero_lt_succ 4)⟩

/-- A URL with a limit of zero is accepted, and a connection made with its options hands over no
payload, whatever its peer sends. -/
theorem zero_limit_is_accepted :
    ∃ o, Options.parse "mysql://localhost/db?max_packet_size=0" = .ok o ∧ o.maxPacketSize = 0 ∧
      ∀ (h : Hub) shrinks sent n, ∀ frame ∈ h.handedOver o shrinks sent n,
        ¬ headerSize < frame.length := by
  have accepted : Options.parse "mysql://localhost/db?max_packet_size=0" =
      .ok { host := "localhost", schema := some "db", maxPacketSize := 0 } := by decide +kernel
  refine ⟨_, accepted, rfl, ?_⟩
  intro h shrinks sent n frame mem
  exact Nat.not_lt_of_le (Hub.handedOver_sound frame mem).length_le

end AtomicCommit
