import AtomicCommit.Options
import Mathlib.Algebra.Group.Nat.Defs
import Mathlib.Data.List.Induction

/-!
# The options that a URL spells

The pairs of a query are read one after the other, each into the options that those before it have
left, and the pool is chosen at the end. What comes of it can be said without any order of reading:
every pair with a known key has to have a value that the key allows, also one that does not count in
the end, and then each option is what the last pair with its key says, or its default.

* **values** — `readBounded_eq_some_iff` and `readSwitch_eq_some_iff`: which texts are read, and as
  what.
* **one pair** — `OptionsDraft.add_known` and `OptionsDraft.add_stranger`: what a pair does to the
  options, if it is not refused, and `OptionsDraft.add_refused`: what is said if it is.
* **all pairs** — `OptionsDraft.foldlM_add`: what has been read by the end.
* **order** — `Reordered.lastValue_eq` and those behind it: what is the same for pairs in another
  order.
-/

namespace AtomicCommit

/-! ## Values -/

/-- A text without the plus sign in front, if there is one. -/
def unsigned (text : String) : List Char :=
  match text.toList with
  | '+' :: digits => digits
  | digits => digits

/-- A text is made of decimal digits, with a plus sign in front perhaps. -/
def IsNumeral (text : String) : Prop :=
  unsigned text ≠ [] ∧ ∀ c ∈ unsigned text, c.isDigit = true

instance (text : String) : Decidable (IsNumeral text) :=
  inferInstanceAs (Decidable (_ ∧ _))

def numeral (text : String) : Nat :=
  Nat.ofDigitChars 10 (unsigned text) 0

/-- A text is a numeral for a number below the bound. -/
def Fits (bound : Nat) (text : String) : Prop :=
  IsNumeral text ∧ numeral text < bound

/-- The spellings of a switch that is on, or of one that is off. -/
def switchWords : Bool → List String
  | true => ["true", "True", "1", "yes", "on"]
  | false => ["false", "False", "0", "no", "off"]

/-- A text is one of the ten spellings of a switch. -/
def IsSwitch (text : String) : Prop :=
  ∃ on, text ∈ switchWords on

theorem readBounded_eq_some_iff {bound n : Nat} {text : String} :
    readBounded bound text = some n ↔ Fits bound text ∧ n = numeral text := by
  have value : (unsigned text).foldl (fun n c => n * 10 + (c.toNat - '0'.toNat)) 0 =
      numeral text := by
    rw [numeral, Nat.ofDigitChars_eq_foldl]
    simp only [Nat.mul_comm 10]
  have read : readBounded bound text =
      if (unsigned text).isEmpty || !(unsigned text).all Char.isDigit then none
      else if (unsigned text).foldl (fun n c => n * 10 + (c.toNat - '0'.toNat)) 0 < bound then
        some ((unsigned text).foldl (fun n c => n * 10 + (c.toNat - '0'.toNat)) 0)
      else none := rfl
  rw [read, value]
  unfold Fits IsNumeral
  -- Read only what is all digits: without that neither side holds, whatever the value.
  by_cases digits : unsigned text ≠ [] ∧ ∀ c ∈ unsigned text, c.isDigit = true
  · have legible : ((unsigned text).isEmpty || !(unsigned text).all Char.isDigit) = false := by
      simp only [Bool.or_eq_false_iff, List.isEmpty_eq_false_iff, Bool.not_eq_false',
        List.all_eq_true]
      exact digits
    rw [legible, if_neg Bool.false_ne_true]
    by_cases small : numeral text < bound
    · rw [if_pos small]
      constructor
      · intro same
        exact ⟨⟨digits, small⟩, (Option.some.inj same).symm⟩
      · rintro ⟨-, rfl⟩
        rfl
    · rw [if_neg small]
      constructor
      · intro same
        exact absurd same (by simp)
      · rintro ⟨⟨-, fits⟩, -⟩
        exact absurd fits small
  · have illegible : ((unsigned text).isEmpty || !(unsigned text).all Char.isDigit) = true := by
      by_contra other
      apply digits
      simpa only [Bool.not_eq_true, Bool.or_eq_false_iff, List.isEmpty_eq_false_iff,
        Bool.not_eq_false', List.all_eq_true] using other
    rw [illegible]
    simp [digits]

/-- No word spells both. -/
theorem on_of_mem {text : String} {on : Bool} (spelled : text ∈ switchWords on) :
    decide (text ∈ switchWords true) = on := by
  cases on with
  | true => exact decide_eq_true spelled
  | false =>
    simp only [switchWords, List.mem_cons, List.not_mem_nil, or_false] at spelled
    rcases spelled with rfl | rfl | rfl | rfl | rfl <;> decide

theorem readSwitch_eq_some_iff {text : String} {on : Bool} :
    readSwitch text = some on ↔ text ∈ switchWords on := by
  have read : readSwitch text =
      if (switchWords true).contains text then some true
      else if (switchWords false).contains text then some false else none := rfl
  rw [read]
  simp only [List.contains_iff_mem]
  by_cases isOn : text ∈ switchWords true
  · rw [if_pos isOn]
    cases on with
    | true => simp [isOn]
    | false =>
      have apart : text ∉ switchWords false := by
        intro isOff
        have := on_of_mem isOff
        simp [isOn] at this
      simp [apart]
  · rw [if_neg isOn]
    cases on with
    | true => simp [isOn]
    | false => simp

/-! ## Keys -/

/-- The options that a pair can set. -/
inductive OptionKey where
  | charset
  | readChunk
  | maxPacketSize
  | receiveBuffer
  | sendBuffer
  | noDelay
  | revertSeconds
  | poolCapacity
  | xidIssuer
  deriving DecidableEq, Repr

namespace OptionKey

/-- The key of the pairs that set the option. -/
def name : OptionKey → String
  | .charset => "charset"
  | .readChunk => "read_buffer_chunk"
  | .maxPacketSize => "max_packet_size"
  | .receiveBuffer => "so_rcvbuf"
  | .sendBuffer => "so_sndbuf"
  | .noDelay => "tcp_nodelay"
  | .revertSeconds => "large_buffer_revert_secs"
  | .poolCapacity => "buffer_pool_capacity"
  | .xidIssuer => "xa_id_prefix"

/-- The values that the option can be set to. -/
def Allows : OptionKey → String → Prop
  | .charset, _ | .xidIssuer, _ => True
  | .noDelay, value => IsSwitch value
  | .receiveBuffer, value | .sendBuffer, value => Fits (2 ^ 32) value
  | .maxPacketSize, value | .revertSeconds, value | .poolCapacity, value => Fits (2 ^ 64) value
  | .readChunk, value => Fits (2 ^ 64) value ∧ numeral value ≠ 0

/-- Set the option to a value that it allows. -/
def set (k : OptionKey) (value : String) (d : OptionsDraft) : OptionsDraft :=
  let o := d.options
  match k with
  | .charset => { d with options := { o with charset := value } }
  | .readChunk => { d with options := { o with readChunk := numeral value } }
  | .maxPacketSize => { d with options := { o with maxPacketSize := numeral value } }
  | .receiveBuffer =>
    { d with options := { o with socket := { o.socket with receiveBuffer := numeral value } } }
  | .sendBuffer =>
    { d with options := { o with socket := { o.socket with sendBuffer := numeral value } } }
  | .noDelay =>
    { d with options := { o with
      socket := { o.socket with noDelay := decide (value ∈ switchWords true) } } }
  | .revertSeconds => { d with options := { o with revertSeconds := numeral value } }
  | .poolCapacity => { d with poolCapacity := some (numeral value) }
  | .xidIssuer => { d with options := { o with xidIssuer := value } }

/-- What is said of a value that the option does not allow. -/
def refusal (k : OptionKey) (value : String) : UsageError :=
  if k = .readChunk ∧ IsNumeral value ∧ numeral value = 0 then .emptyChunk
  else .badOption k.name value

theorem name_inj {j k : OptionKey} : j.name = k.name ↔ j = k := by
  cases j <;> cases k <;> simp [name]

end OptionKey

/-- An option has this key. -/
def IsKnown (key : String) : Prop :=
  ∃ k : OptionKey, key = k.name

instance (key : String) : Decidable (IsKnown key) :=
  decidable_of_iff (key ∈ [OptionKey.charset, .readChunk, .maxPacketSize, .receiveBuffer,
    .sendBuffer, .noDelay, .revertSeconds, .poolCapacity, .xidIssuer].map OptionKey.name) (by
      simp only [List.mem_map, IsKnown]
      constructor
      · rintro ⟨k, -, rfl⟩
        exact ⟨k, rfl⟩
      · rintro ⟨k, rfl⟩
        exact ⟨k, by cases k <;> simp, rfl⟩)

/-- The value of the last pair that sets an option. -/
def lastValue (pairs : List (String × String)) (k : OptionKey) : Option String :=
  pairs.reverse.lookup k.name

/-- The pairs that set no option. -/
def strangers (pairs : List (String × String)) : List (String × String) :=
  pairs.filter fun pair => ¬ IsKnown pair.1

/-! ## One pair -/

namespace OptionsDraft

variable {d d' : OptionsDraft} {key value : String}

theorem bind_eq_ok_iff {α β : Type} {x : Except UsageError α} {f : α → Except UsageError β}
    {b : β} : x >>= f = .ok b ↔ ∃ a, x = .ok a ∧ f a = .ok b := by
  cases x with
  | error e => simp [bind, Except.bind]
  | ok a => simp [bind, Except.bind]

theorem number_eq_ok_iff {bound n : Nat} :
    number bound key value = .ok n ↔ Fits bound value ∧ n = numeral value := by
  rw [← readBounded_eq_some_iff, number]
  cases readBounded bound value with
  | none => simp
  | some m => simp

theorem switch_eq_ok_iff {on : Bool} : switch key value = .ok on ↔ value ∈ switchWords on := by
  rw [← readSwitch_eq_some_iff, switch]
  cases readSwitch value with
  | none => simp
  | some b => simp

/-- **A pair with a known key.** It is refused unless its value is allowed. -/
theorem add_known {k : OptionKey} :
    d.add (k.name, value) = .ok d' ↔ k.Allows value ∧ d' = k.set value d := by
  cases k with
  | charset | xidIssuer => simp [add, OptionKey.name, OptionKey.Allows, OptionKey.set, eq_comm]
  | maxPacketSize | receiveBuffer | sendBuffer | revertSeconds | poolCapacity =>
    simp only [add, OptionKey.name, bind_eq_ok_iff, number_eq_ok_iff, OptionKey.Allows,
      OptionKey.set, Except.ok.injEq]
    constructor
    · rintro ⟨n, ⟨fits, rfl⟩, rfl⟩
      exact ⟨fits, rfl⟩
    · rintro ⟨fits, rfl⟩
      exact ⟨_, ⟨fits, rfl⟩, rfl⟩
  | noDelay =>
    simp only [add, OptionKey.name, bind_eq_ok_iff, switch_eq_ok_iff, OptionKey.Allows,
      OptionKey.set, Except.ok.injEq]
    constructor
    · rintro ⟨on, spelled, rfl⟩
      exact ⟨⟨on, spelled⟩, by rw [on_of_mem spelled]⟩
    · rintro ⟨⟨on, spelled⟩, rfl⟩
      exact ⟨on, spelled, by rw [on_of_mem spelled]⟩
  | readChunk =>
    simp only [add, OptionKey.name, bind_eq_ok_iff, number_eq_ok_iff, OptionKey.Allows,
      OptionKey.set]
    constructor
    · rintro ⟨n, ⟨fits, rfl⟩, taken⟩
      by_cases empty : numeral value = 0
      · rw [if_pos empty] at taken
        exact absurd taken (by simp)
      · rw [if_neg empty] at taken
        exact ⟨⟨fits, empty⟩, (Except.ok.inj taken).symm⟩
    · rintro ⟨⟨fits, some⟩, rfl⟩
      exact ⟨_, ⟨fits, rfl⟩, if_neg some⟩

theorem number_eq_error {bound : Nat} (refused : ¬ Fits bound value) :
    number bound key value = .error (.badOption key value) := by
  rw [number]
  cases read : readBounded bound value with
  | none => rfl
  | some n => exact absurd (readBounded_eq_some_iff.mp read).1 refused

theorem switch_eq_error (refused : ¬ IsSwitch value) :
    switch key value = .error (.badOption key value) := by
  rw [switch]
  cases read : readSwitch value with
  | none => rfl
  | some on => exact absurd ⟨on, readSwitch_eq_some_iff.mp read⟩ refused

/-- **A value that is not allowed.** The error names the key and the value, and only a chunk size of
zero has an error of its own. -/
theorem add_refused {k : OptionKey} (d : OptionsDraft) (refused : ¬ k.Allows value) :
    d.add (k.name, value) = .error (k.refusal value) := by
  cases k with
  | charset | xidIssuer => exact absurd trivial refused
  | receiveBuffer | sendBuffer =>
    simp only [add, OptionKey.name]
    rw [number_eq_error (show ¬ Fits bound32 value from refused)]
    rfl
  | maxPacketSize | revertSeconds | poolCapacity =>
    simp only [add, OptionKey.name]
    rw [number_eq_error (show ¬ Fits bound64 value from refused)]
    rfl
  | noDelay =>
    simp only [add, OptionKey.name]
    rw [switch_eq_error refused]
    rfl
  | readChunk =>
    -- The one key that is refused for two reasons, and the text of the refusal tells them apart.
    by_cases fits : Fits bound64 value
    · have empty : numeral value = 0 := by
        by_contra some
        exact refused ⟨fits, some⟩
      have own : OptionKey.refusal .readChunk value = .emptyChunk := if_pos ⟨rfl, fits.1, empty⟩
      rw [own]
      simp only [add, OptionKey.name]
      rw [number_eq_ok_iff.mpr ⟨fits, rfl⟩]
      exact if_pos empty
    · have usual : OptionKey.refusal .readChunk value = .badOption "read_buffer_chunk" value := by
        refine if_neg ?_
        rintro ⟨-, digits, empty⟩
        exact fits ⟨digits, empty ▸ Nat.zero_lt_succ _⟩
      rw [usual]
      simp only [add, OptionKey.name]
      rw [number_eq_error fits]
      rfl

/-- **A pair with any other key.** It is kept as it is. -/
theorem add_stranger (stranger : ¬ IsKnown key) :
    d.add (key, value) =
      .ok { d with options := { d.options with
        params := d.options.params ++ [(key, value)] } } := by
  have other (k : OptionKey) : key ≠ k.name := fun same => stranger ⟨k, same⟩
  simp only [add]
  split
  · exact absurd rfl (other .charset)
  · exact absurd rfl (other .readChunk)
  · exact absurd rfl (other .maxPacketSize)
  · exact absurd rfl (other .receiveBuffer)
  · exact absurd rfl (other .sendBuffer)
  · exact absurd rfl (other .noDelay)
  · exact absurd rfl (other .revertSeconds)
  · exact absurd rfl (other .poolCapacity)
  · exact absurd rfl (other .xidIssuer)
  · rfl

end OptionsDraft

/-! ## All pairs -/

section Pairs

variable {pairs : List (String × String)} {key value : String} {j k : OptionKey}

theorem lastValue_cons (pair : String × String) :
    lastValue (pair :: pairs) k =
      (lastValue pairs k).or (if pair.1 = k.name then some pair.2 else none) := by
  unfold lastValue
  rw [List.reverse_cons, List.lookup_append, List.lookup_cons]
  by_cases same : pair.1 = k.name
  · simp [same]
  · have different : (k.name == pair.1) = false := by
      simpa using Ne.symm same
    simp [same, different]

theorem lastValue_concat (pair : String × String) :
    lastValue (pairs ++ [pair]) k =
      if pair.1 = k.name then some pair.2 else lastValue pairs k := by
  unfold lastValue
  rw [List.reverse_concat, List.lookup_cons]
  by_cases same : pair.1 = k.name
  · simp [same]
  · have different : (k.name == pair.1) = false := by
      simpa using Ne.symm same
    simp [same, different]

theorem lastValue_concat_known :
    lastValue (pairs ++ [(j.name, value)]) k = if j = k then some value else lastValue pairs k := by
  rw [lastValue_concat]
  simp only [OptionKey.name_inj]

theorem lastValue_concat_stranger (stranger : ¬ IsKnown key) :
    lastValue (pairs ++ [(key, value)]) k = lastValue pairs k := by
  rw [lastValue_concat]
  exact if_neg fun same => stranger ⟨k, same⟩

theorem strangers_concat_known :
    strangers (pairs ++ [(k.name, value)]) = strangers pairs := by
  have known : IsKnown k.name := ⟨k, rfl⟩
  simp [strangers, List.filter_append, known]

theorem strangers_concat_stranger (stranger : ¬ IsKnown key) :
    strangers (pairs ++ [(key, value)]) = strangers pairs ++ [(key, value)] := by
  simp [strangers, List.filter_append, stranger]

end Pairs

namespace OptionsDraft

/-- What is in the draft behind these pairs, if none of them is refused. -/
def spelled (start : Options) (pairs : List (String × String)) : OptionsDraft where
  options := { start with
    charset := (lastValue pairs .charset).getD start.charset
    readChunk := ((lastValue pairs .readChunk).map numeral).getD start.readChunk
    maxPacketSize := ((lastValue pairs .maxPacketSize).map numeral).getD start.maxPacketSize
    socket := {
      receiveBuffer :=
        ((lastValue pairs .receiveBuffer).map numeral).getD start.socket.receiveBuffer
      sendBuffer := ((lastValue pairs .sendBuffer).map numeral).getD start.socket.sendBuffer
      noDelay := ((lastValue pairs .noDelay).map fun value =>
        decide (value ∈ switchWords true)).getD start.socket.noDelay }
    revertSeconds := ((lastValue pairs .revertSeconds).map numeral).getD start.revertSeconds
    xidIssuer := (lastValue pairs .xidIssuer).getD start.xidIssuer
    params := start.params ++ strangers pairs }
  poolCapacity := (lastValue pairs .poolCapacity).map numeral

variable {start : Options} {pairs : List (String × String)} {key value : String} {k : OptionKey}

theorem spelled_nil (start : Options) : spelled start [] = { options := start } := by
  simp [spelled, lastValue, strangers]

theorem spelled_concat_known :
    spelled start (pairs ++ [(k.name, value)]) = k.set value (spelled start pairs) := by
  cases k <;> simp [spelled, OptionKey.set, lastValue_concat_known, strangers_concat_known]

theorem spelled_concat_stranger (stranger : ¬ IsKnown key) :
    spelled start (pairs ++ [(key, value)]) =
      { spelled start pairs with options := { (spelled start pairs).options with
        params := (spelled start pairs).options.params ++ [(key, value)] } } := by
  simp [spelled, lastValue_concat_stranger stranger, strangers_concat_stranger stranger]

/-- **All pairs.** They are taken in if the value of every known key is allowed, and then the last
value of a key is the one that counts. -/
theorem foldlM_add {d : OptionsDraft} :
    pairs.foldlM add { options := start } = .ok d ↔
      (∀ (k : OptionKey) value, (k.name, value) ∈ pairs → k.Allows value) ∧
        d = spelled start pairs := by
  -- the last pair is the one that counts, so the pairs are taken from the end
  induction pairs using List.reverseRecOn generalizing d with
  | nil => simp [spelled_nil, pure, Except.pure, eq_comm]
  | append_singleton pairs pair ih =>
    obtain ⟨key, value⟩ := pair
    rw [List.foldlM_append, bind_eq_ok_iff]
    simp only [ih, List.foldlM_cons, List.foldlM_nil, bind_pure, List.mem_append,
      List.mem_singleton]
    by_cases known : IsKnown key
    · obtain ⟨k, rfl⟩ := known
      simp only [add_known, spelled_concat_known]
      constructor
      · rintro ⟨-, ⟨allowed, rfl⟩, allows, rfl⟩
        refine ⟨?_, rfl⟩
        rintro j v (before | last)
        · exact allowed j v before
        · obtain ⟨same, rfl⟩ := Prod.mk.inj last
          exact OptionKey.name_inj.mp same ▸ allows
      · rintro ⟨allowed, rfl⟩
        exact ⟨_, ⟨fun j v before => allowed j v (.inl before), rfl⟩,
          allowed k value (.inr rfl), rfl⟩
    · simp only [add_stranger known, spelled_concat_stranger known, Except.ok.injEq]
      constructor
      · rintro ⟨-, ⟨allowed, rfl⟩, rfl⟩
        refine ⟨?_, rfl⟩
        rintro j v (before | last)
        · exact allowed j v before
        · exact absurd ⟨j, (Prod.mk.inj last).1.symm⟩ known
      · rintro ⟨allowed, rfl⟩
        exact ⟨_, ⟨fun j v before => allowed j v (.inl before), rfl⟩, rfl⟩

/-- The first pair whose value is not allowed is the one that counts. -/
theorem foldlM_add_refused {before behind : List (String × String)}
    (allowed : ∀ (j : OptionKey) v, (j.name, v) ∈ before → j.Allows v)
    (refused : ¬ k.Allows value) :
    (before ++ (k.name, value) :: behind).foldlM add { options := start } =
      .error (k.refusal value) := by
  have read : before.foldlM add { options := start } = .ok (spelled start before) :=
    foldlM_add.mpr ⟨allowed, rfl⟩
  rw [List.foldlM_append, read]
  show (add (spelled start before) (k.name, value) >>= _) = _
  rw [add_refused _ refused]
  rfl

end OptionsDraft

/-! ## The options of a URL -/

/-- The options that a URL spells. Its address is told by its parts, and every other option by the
last pair that sets it, or else it has its default. -/
def Options.spelled (url : Url) : Options :=
  let last := lastValue url.pairs
  let default : Options := {}
  let readChunk := ((last .readChunk).map numeral).getD default.readChunk
  { Options.ofAddress url with
    charset := (last .charset).getD default.charset
    socket := {
      receiveBuffer := ((last .receiveBuffer).map numeral).getD default.socket.receiveBuffer
      sendBuffer := ((last .sendBuffer).map numeral).getD default.socket.sendBuffer
      noDelay := ((last .noDelay).map fun value =>
        decide (value ∈ switchWords true)).getD default.socket.noDelay }
    readChunk := readChunk
    maxPacketSize := ((last .maxPacketSize).map numeral).getD default.maxPacketSize
    revertSeconds := ((last .revertSeconds).map numeral).getD default.revertSeconds
    xidIssuer := (last .xidIssuer).getD default.xidIssuer
    -- chunks of the default size come from the shared pool, unless a capacity is asked for
    pool := match last .poolCapacity with
      | some value => .dedicated (numeral value) readChunk
      | none =>
        if readChunk = defaultChunkSize then .shared else .dedicated defaultPoolCapacity readChunk
    params := strangers url.pairs }

theorem OptionsDraft.finish_spelled (url : Url) :
    (spelled (Options.ofAddress url) url.pairs).finish = Options.spelled url := by
  cases last : lastValue url.pairs .poolCapacity with
  | some value => simp [finish, spelled, Options.spelled, last, Options.ofAddress]
  | none =>
    simp only [finish, spelled, Options.spelled, last, Option.map_none]
    by_cases usual :
        ((lastValue url.pairs .readChunk).map numeral).getD defaultChunkSize = defaultChunkSize
    · simp [Options.ofAddress, PoolSource.chunkSize, usual]
    · simp [Options.ofAddress, PoolSource.chunkSize, usual]

/-- The pool has chunks of the size that is read into. -/
theorem Options.chunkSize_spelled (url : Url) :
    (Options.spelled url).pool.chunkSize = (Options.spelled url).readChunk := by
  simp only [Options.spelled]
  cases lastValue url.pairs .poolCapacity with
  | some value => rfl
  | none =>
    by_cases usual :
        ((lastValue url.pairs .readChunk).map numeral).getD defaultChunkSize = defaultChunkSize
    · simp [usual, PoolSource.chunkSize]
    · simp [usual, PoolSource.chunkSize]

/-- A URL is accepted if its scheme is right and each of its pairs is, and then its options are the
ones that it spells. -/
theorem ofUrl_eq_ok_iff {url : Url} {o : Options} :
    Options.ofUrl url = .ok o ↔ url.scheme = "mysql" ∧
      (∀ (k : OptionKey) value, (k.name, value) ∈ url.pairs → k.Allows value) ∧
      o = Options.spelled url := by
  unfold Options.ofUrl
  by_cases right : url.scheme = "mysql"
  · rw [if_neg (not_not_intro right), OptionsDraft.bind_eq_ok_iff]
    simp only [OptionsDraft.foldlM_add, Except.ok.injEq, right, true_and]
    constructor
    · rintro ⟨d, ⟨allowed, rfl⟩, rfl⟩
      exact ⟨allowed, OptionsDraft.finish_spelled url⟩
    · rintro ⟨allowed, rfl⟩
      exact ⟨_, ⟨allowed, rfl⟩, OptionsDraft.finish_spelled url⟩
  · rw [if_pos right]
    simp [right]

/-- Of a URL that is refused for its pairs, the error is that of the first pair which is at fault. -/
theorem ofUrl_eq_error {url : Url} {before behind : List (String × String)} {k : OptionKey}
    {value : String} (right : url.scheme = "mysql")
    (pairs : url.pairs = before ++ (k.name, value) :: behind)
    (allowed : ∀ (j : OptionKey) v, (j.name, v) ∈ before → j.Allows v)
    (refused : ¬ k.Allows value) : Options.ofUrl url = .error (k.refusal value) := by
  unfold Options.ofUrl
  rw [if_neg (not_not_intro right), pairs, OptionsDraft.foldlM_add_refused allowed refused]
  rfl

/-! ## Pairs in another order -/

/-- The same pairs, but some with different keys have changed places, of which one at least sets an
option. -/
inductive Reordered : List (String × String) → List (String × String) → Prop where
  | refl (pairs : List (String × String)) : Reordered pairs pairs
  | cons (pair : String × String) {pairs others : List (String × String)}
      (rest : Reordered pairs others) : Reordered (pair :: pairs) (pair :: others)
  | swap (a b : String × String) (rest : List (String × String)) (different : a.1 ≠ b.1)
      (known : IsKnown a.1 ∨ IsKnown b.1) : Reordered (a :: b :: rest) (b :: a :: rest)
  | trans {first second third : List (String × String)} (before : Reordered first second)
      (after : Reordered second third) : Reordered first third

namespace Reordered

variable {pairs others : List (String × String)}

theorem mem_iff (reordered : Reordered pairs others) (pair : String × String) :
    pair ∈ pairs ↔ pair ∈ others := by
  induction reordered with
  | refl => exact Iff.rfl
  | cons first rest ih => simp only [List.mem_cons, ih]
  | swap a b rest different known => simp only [List.mem_cons, or_left_comm]
  | trans before after first second => exact first.trans second

/-- Only pairs with one key compete for being the last. -/
theorem lastValue_eq (reordered : Reordered pairs others) (k : OptionKey) :
    lastValue pairs k = lastValue others k := by
  induction reordered with
  | refl => rfl
  | cons first rest ih => rw [lastValue_cons, lastValue_cons, ih]
  | swap a b rest different known =>
    simp only [lastValue_cons, Option.or_assoc]
    by_cases first : a.1 = k.name
    · have second : b.1 ≠ k.name := fun same => different (first.trans same.symm)
      simp [first, second]
    · simp [first]
  | trans before after first second => exact first.trans second

theorem strangers_eq (reordered : Reordered pairs others) :
    strangers pairs = strangers others := by
  induction reordered with
  | refl => rfl
  | cons first rest ih =>
    unfold strangers at ih ⊢
    rw [List.filter_cons, List.filter_cons, ih]
  | swap a b rest different known =>
    unfold strangers
    rcases known with known | known
    · simp [List.filter_cons, known]
    · simp [List.filter_cons, known]
  | trans before after first second => exact first.trans second

/-- Two URLs with one address spell the same options. -/
theorem spelled_eq {url other : Url} (address : Options.ofAddress other = Options.ofAddress url)
    (reordered : Reordered url.pairs other.pairs) :
    Options.spelled url = Options.spelled other := by
  unfold Options.spelled
  simp only [address, reordered.lastValue_eq, reordered.strangers_eq]

end Reordered

theorem mem_of_lastValue {pairs : List (String × String)} {k : OptionKey} {value : String}
    (last : lastValue pairs k = some value) : (k.name, value) ∈ pairs := by
  obtain ⟨behind, before, split, -⟩ := List.lookup_eq_some_iff.mp last
  rw [← List.mem_reverse, split]
  simp

theorem lastValue_eq_none_iff {pairs : List (String × String)} {k : OptionKey} :
    lastValue pairs k = none ↔ ∀ value, (k.name, value) ∉ pairs := by
  unfold lastValue
  rw [List.lookup_eq_none_iff]
  constructor
  · intro absent value here
    simpa using absent _ (List.mem_reverse.mpr here)
  · rintro absent ⟨key, value⟩ here
    by_contra same
    obtain rfl : k.name = key := by simpa using same
    exact absent value (List.mem_reverse.mp here)

/-- **Options.** A URL is accepted if and only if its scheme is `mysql` and every pair of its query
whose key is that of an option has a value that this option allows, whether or not it is overridden
later. The options are then the ones that the URL spells: each is told by the last pair with its
key, or has its default, and the other pairs are kept in order. Pairs with different keys may change
places as long as one of them sets an option. The chunks of the pool are as large as those that are
read into, and the pool is the shared one exactly if no capacity is asked for and they have the
default size. -/
theorem accepted_iff_and_spelled (url : Url) :
    (∀ o, Options.ofUrl url = .ok o ↔ url.scheme = "mysql" ∧
      (∀ (k : OptionKey) value, (k.name, value) ∈ url.pairs → k.Allows value) ∧
      o = Options.spelled url) ∧
    (∀ other : Url, other.scheme = url.scheme → Options.ofAddress other = Options.ofAddress url →
      Reordered url.pairs other.pairs →
      ∀ o, Options.ofUrl url = .ok o ↔ Options.ofUrl other = .ok o) ∧
    ∀ o, Options.ofUrl url = .ok o →
      o.pool.chunkSize = o.readChunk ∧
      (o.pool = .shared ↔
        (∀ value, (OptionKey.poolCapacity.name, value) ∉ url.pairs) ∧
          o.readChunk = defaultChunkSize) := by
  refine ⟨fun o => ofUrl_eq_ok_iff, ?_, ?_⟩
  · intro other scheme address reordered o
    rw [ofUrl_eq_ok_iff, ofUrl_eq_ok_iff, scheme, reordered.spelled_eq address]
    simp only [reordered.mem_iff]
  · intro o accepted
    obtain ⟨-, -, rfl⟩ := ofUrl_eq_ok_iff.mp accepted
    refine ⟨Options.chunkSize_spelled url, ?_⟩
    rw [← lastValue_eq_none_iff]
    simp only [Options.spelled]
    cases last : lastValue url.pairs .poolCapacity with
    | some value => simp
    | none => simp

namespace Sample

/-- The size of the chunks is given twice, between a switch and a pair that sets no option. -/
def sizedTwice : Url where
  scheme := "mysql"
  host := some "db1"
  query := some "tcp_nodelay=no&read_buffer_chunk=16&x=1&read_buffer_chunk=%2B08192"

/-- The first two pairs have changed places. -/
def resized : Url :=
  { sizedTwice with
    query := some "read_buffer_chunk=16&tcp_nodelay=no&x=1&read_buffer_chunk=%2B08192" }

end Sample

open Sample in
/-- The case of a size that is given again, as the default, so that the shared pool will do. -/
theorem spelled_twice :
    Options.ofUrl sizedTwice =
        .ok { host := "db1", socket := { noDelay := false }, params := [("x", "1")] } ∧
      Options.ofUrl resized = Options.ofUrl sizedTwice ∧
      (OptionKey.readChunk.name, "16") ∈ sizedTwice.pairs ∧ OptionKey.readChunk.Allows "16" := by
  obtain ⟨accepted, reordered, -⟩ := accepted_iff_and_spelled sizedTwice
  have first : sizedTwice.pairs = [("tcp_nodelay", "no"), ("read_buffer_chunk", "16"), ("x", "1"),
      ("read_buffer_chunk", "+08192")] := by decide +kernel
  have second : resized.pairs = [("read_buffer_chunk", "16"), ("tcp_nodelay", "no"), ("x", "1"),
      ("read_buffer_chunk", "+08192")] := by decide +kernel
  have read : Options.ofUrl sizedTwice =
      .ok { host := "db1", socket := { noDelay := false }, params := [("x", "1")] } := by
    decide +kernel
  obtain ⟨-, allowed, -⟩ := (accepted _).mp read
  have swapped : Reordered sizedTwice.pairs resized.pairs := by
    rw [first, second]
    exact .swap _ _ _ (by decide) (.inl ⟨.noDelay, rfl⟩)
  have here : (OptionKey.readChunk.name, "16") ∈ sizedTwice.pairs := by
    rw [first]
    decide
  have again := (reordered resized rfl rfl swapped _).mp read
  exact ⟨read, again.trans read.symm, here, allowed .readChunk "16" here⟩

end AtomicCommit
