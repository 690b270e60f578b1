import AtomicCommit.Wire.Framing

/-!
# Cutting bytes into frames

A `Cut` of some bytes is what a reader who sees all of them at once makes of them: the complete
frames at the front, up to the first that announces too much, and what is left. Cuts are unique
(`Cut.unique`) and can be made piece by piece (`Cut.extend`), which is why it does not matter how
the pieces fall. `Split.ofBytes` makes the cut of the bytes that it is given (`cut_ofBytes`), so
complete frames that stand one behind the other are what it finds (`ofBytes_flatten`).
-/

namespace AtomicCommit

open Wire

/-! ## Cuts -/

/-- A complete frame whose payload is within the limit. -/
def Wire.IsWhole (limit : Nat) (frame : Bytes) : Prop :=
  ∃ header, Header.parse frame = .ok header ∧ frame.length = header.frameLength ∧
    header.payloadLength ≤ limit

/-- The bytes start with the header of a frame that announces this payload, over the limit. -/
def Wire.Exceeds (limit : Nat) (data : Bytes) (payloadLength : Nat) : Prop :=
  ∃ header, Header.parse data = .ok header ∧ header.payloadLength = payloadLength ∧
    limit < payloadLength

/-- The complete frames at the front of some bytes, and what is left of them. -/
structure Wire.Cut (limit : Nat) (data : Bytes) (frames : List Bytes) (left : Bytes) : Prop where
  whole : data = frames.flatten ++ left
  complete : ∀ frame ∈ frames, IsWhole limit frame
  ends : ∀ frame behind, left = frame ++ behind → ¬ IsWhole limit frame

namespace Wire

variable {limit : Nat} {data left : Bytes} {frames : List Bytes}

/-- A header is read off the first bytes. -/
theorem Header.parse_append {header : Header} (h : Header.parse data = .ok header)
    (behind : Bytes) : Header.parse (data ++ behind) = .ok header := by
  match data, h with
  | a :: b :: c :: d :: rest, h => exact h

theorem Header.parse_take {header : Header} (h : Header.parse data = .ok header) {n : Nat}
    (enough : headerSize ≤ n) : Header.parse (data.take n) = .ok header := by
  match data, n, h, enough with
  | a :: b :: c :: d :: rest, n + 4, h, _ => exact h

/-- A frame at the front of some bytes is told by the length in its header. -/
theorem IsWhole.eq_take {frame behind : Bytes} {header : Header} (isWhole : IsWhole limit frame)
    (h : Header.parse (frame ++ behind) = .ok header) :
    frame = (frame ++ behind).take header.frameLength := by
  obtain ⟨own, parsed, length, -⟩ := isWhole
  have same := (Header.parse_append parsed behind).symm.trans h
  rw [← Except.ok.inj same, ← length, List.take_left]

theorem IsWhole.length_le {frame : Bytes} (isWhole : IsWhole limit frame) :
    frame.length ≤ headerSize + limit := by
  obtain ⟨header, -, length, within⟩ := isWhole
  rw [length, Header.frameLength]
  omega

theorem Exceeds.append {payloadLength : Nat} (exceeds : Exceeds limit data payloadLength)
    (behind : Bytes) : Exceeds limit (data ++ behind) payloadLength := by
  obtain ⟨header, parsed, length, large⟩ := exceeds
  exact ⟨header, Header.parse_append parsed behind, length, large⟩

theorem IsWhole.unique {f g x y : Bytes} (isWhole : IsWhole limit f) (isAlso : IsWhole limit g)
    (same : f ++ x = g ++ y) : f = g ∧ x = y := by
  obtain ⟨header, parsed, -, -⟩ := id isWhole
  have front := Header.parse_append parsed x
  have first := isWhole.eq_take front
  have second := isAlso.eq_take (same ▸ front)
  rw [same, ← second] at first
  subst first
  exact ⟨rfl, List.append_cancel_left same⟩

namespace Cut

/-- **Unique.** There is only one way to cut some bytes. -/
theorem unique {gs : List Bytes} {right : Bytes} (cut : Cut limit data frames left)
    (other : Cut limit data gs right) : frames = gs ∧ left = right := by
  induction frames generalizing data gs with
  | nil =>
    have whole : data = left := cut.whole
    cases gs with
    | nil => exact ⟨rfl, whole.symm.trans other.whole⟩
    | cons g gs =>
      have front : left = g ++ (gs.flatten ++ right) := by
        rw [← whole, other.whole, List.flatten_cons, List.append_assoc]
      -- what is left of one cut would begin with a frame of the other
      exact absurd (other.complete g List.mem_cons_self) (cut.ends _ _ front)
  | cons f fs ih =>
    have frame := cut.complete f List.mem_cons_self
    have whole : data = f ++ (fs.flatten ++ left) := by simpa using cut.whole
    cases gs with
    | nil => exact absurd frame (other.ends f _ (other.whole.symm.trans whole))
    | cons g gs =>
      have alsoWhole : data = g ++ (gs.flatten ++ right) := by simpa using other.whole
      obtain ⟨rfl, rest⟩ :=
        frame.unique (other.complete g List.mem_cons_self) (whole.symm.trans alsoWhole)
      have behind : Cut limit (fs.flatten ++ left) fs left :=
        ⟨rfl, fun x mem => cut.complete x (List.mem_cons_of_mem _ mem), cut.ends⟩
      have alsoBehind : Cut limit (fs.flatten ++ left) gs right :=
        ⟨rest, fun x mem => other.complete x (List.mem_cons_of_mem _ mem), other.ends⟩
      obtain ⟨rfl, same⟩ := ih behind alsoBehind
      exact ⟨rfl, same⟩

/-- **Piece by piece.** What is left of the first bytes is cut together with those that follow. -/
theorem extend {more right : Bytes} {gs : List Bytes} (cut : Cut limit data frames left)
    (next : Cut limit (left ++ more) gs right) : Cut limit (data ++ more) (frames ++ gs) right := by
  refine ⟨?_, ?_, next.ends⟩
  · rw [cut.whole, List.append_assoc, next.whole, List.flatten_append, List.append_assoc]
  · intro frame mem
    rcases List.mem_append.mp mem with earlier | later
    · exact cut.complete frame earlier
    · exact next.complete frame later

theorem nil (limit : Nat) : Cut limit [] [] [] := by
  refine ⟨rfl, by simp, ?_⟩
  rintro frame behind empty ⟨header, parsed, -⟩
  rw [(List.append_eq_nil_iff.mp empty.symm).1] at parsed
  simp [Header.parse] at parsed

/-- Nothing is cut off behind the header of a frame over the limit. -/
theorem of_exceeds {payloadLength : Nat} (exceeds : Exceeds limit data payloadLength) :
    Cut limit data [] data := by
  obtain ⟨header, parsed, rfl, large⟩ := exceeds
  refine ⟨rfl, by simp, ?_⟩
  rintro front behind rfl ⟨own, ownParsed, -, within⟩
  obtain rfl := Except.ok.inj ((Header.parse_append ownParsed behind).symm.trans parsed)
  omega

end Cut

/-- **The program's cut.** `Split.ofBytes` cuts all the bytes that it is given. -/
theorem cut_ofBytes (limit : Nat) (data : Bytes) :
    Cut limit data (Split.ofBytes limit data).frames (Split.ofBytes limit data).left := by
  fun_induction Split.ofBytes limit data with
  | case1 data cause unparsed =>
    refine ⟨rfl, by simp, ?_⟩
    rintro frame behind rfl ⟨header, parsed, -⟩
    rw [Header.parse_append parsed] at unparsed
    simp at unparsed
  | case2 data header parsed large =>
    refine ⟨rfl, by simp, ?_⟩
    rintro frame behind rfl ⟨own, ownParsed, -, within⟩
    obtain rfl := Except.ok.inj ((Header.parse_append ownParsed behind).symm.trans parsed)
    omega
  | case3 data header parsed within frame short =>
    refine ⟨rfl, by simp, ?_⟩
    rintro front behind rfl isWhole
    -- a frame in front would have the length that the header announces, and there is not so much
    rw [show frame = front from (isWhole.eq_take parsed).symm] at short
    obtain ⟨own, ownParsed, length, -⟩ := isWhole
    obtain rfl := Except.ok.inj ((Header.parse_append ownParsed behind).symm.trans parsed)
    omega
  | case4 data header parsed within frame full behind ih =>
    have length : frame.length = header.frameLength := by
      have := List.length_take_le header.frameLength data
      change ¬ frame.length < header.frameLength at full
      change frame.length ≤ header.frameLength at this
      omega
    have isWhole : IsWhole limit frame := by
      refine ⟨header, ?_, length, by omega⟩
      exact Header.parse_take parsed (Nat.le_add_right _ _)
    refine ⟨?_, ?_, ih.ends⟩
    · rw [List.flatten_cons, List.append_assoc, ← ih.whole]
      exact (List.take_append_drop _ _).symm
    · intro f mem
      rcases List.mem_cons.mp mem with rfl | later
      · exact isWhole
      · exact ih.complete f later

theorem Cut.frames_eq (cut : Cut limit data frames left) :
    (Split.ofBytes limit data).frames = frames :=
  ((cut_ofBytes limit data).unique cut).1

/-- A complete frame in front is cut off, and nothing behind it is cut otherwise. -/
theorem IsWhole.ofBytes_append {frame : Bytes} (isWhole : IsWhole limit frame) (behind : Bytes) :
    Split.ofBytes limit (frame ++ behind) =
      { Split.ofBytes limit behind with
        frames := frame :: (Split.ofBytes limit behind).frames } := by
  obtain ⟨header, parsed, length, within⟩ := isWhole
  have front : (frame ++ behind).take header.frameLength = frame := by
    rw [← length, List.take_left]
  have rest : (frame ++ behind).drop header.frameLength = behind := by
    rw [← length, List.drop_left]
  rw [Split.ofBytes]
  split
  · rename_i cause unparsed
    rw [Header.parse_append parsed] at unparsed
    exact absurd unparsed (by simp)
  · rename_i own ownParsed
    obtain rfl := Except.ok.inj ((Header.parse_append parsed behind).symm.trans ownParsed)
    rw [if_neg (Nat.not_lt_of_le within), front, rest, if_neg (by omega)]

/-- Complete frames one behind the other are found, with nothing left over. -/
theorem ofBytes_flatten (whole : ∀ frame ∈ frames, IsWhole limit frame) :
    Split.ofBytes limit frames.flatten = ⟨frames, [], .short⟩ := by
  induction frames with
  | nil => simp [Split.ofBytes, Header.parse]
  | cons frame frames ih =>
    rw [List.forall_mem_cons] at whole
    rw [List.flatten_cons, whole.1.ofBytes_append, ih whole.2]

/-- What `Split.ofBytes` says of the rest: it starts with no header, with the header of a frame that
is longer than the rest, or with that of one over the limit. -/
theorem rest_ofBytes (limit : Nat) (data : Bytes) :
    (Split.ofBytes limit data).rest =
      match Header.parse (Split.ofBytes limit data).left with
      | .error _ => .short
      | .ok header =>
        if limit < header.payloadLength then .oversized header.payloadLength
        else .part header.frameLength := by
  fun_induction Split.ofBytes limit data with
  | case1 data cause unparsed => simp only [unparsed]
  | case2 data header parsed large => simp only [parsed, large, if_true]
  | case3 data header parsed within frame short => simp only [parsed, within, if_false]
  | case4 data header parsed within frame full behind ih => exact ih

theorem oversized_ofBytes_iff {payloadLength : Nat} :
    (Split.ofBytes limit data).rest = .oversized payloadLength ↔
      Exceeds limit (Split.ofBytes limit data).left payloadLength := by
  rw [rest_ofBytes]
  unfold Exceeds
  cases Header.parse (Split.ofBytes limit data).left with
  | error cause => simp
  | ok header =>
    by_cases large : limit < header.payloadLength
    · simp only [large, if_true, Rest.oversized.injEq, Except.ok.injEq, exists_eq_left']
      constructor
      · rintro rfl
        exact ⟨rfl, large⟩
      · exact And.left
    · simp only [large, if_false, reduceCtorEq, Except.ok.injEq, exists_eq_left', false_iff]
      rintro ⟨rfl, above⟩
      exact large above

end Wire

end AtomicCommit
