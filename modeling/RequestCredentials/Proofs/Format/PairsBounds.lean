import RequestCredentials.Proofs.Format.PairsLayout
/-
  Pairs buffers are read inside their bounds

  The number of pairs and all lengths are claimed by the buffer itself. Before
  the lengths are read, the buffer is known to hold a table of that many, and
  before the names and values are read, the lengths are known to add up to what
  stands behind the table. So no reader looks past the end of the buffer,
  whatever number and lengths are claimed.

  That nothing is found outside does not say where a reading looks. For that the
  reading is written once more, with all its looks at the buffer left to a
  `Reader`; the reader that notes them comes to the same pairs and faults.

  What is proved:
    1. `numberAt_isOk`, `readLengths_isOk`, `readTerminated_inside`,
       `readPairs_inside` — what each reader needs the buffer to hold;
    2. `decode_inside` — a reading of a buffer never ends outside it;
    3. `result_decode` — noting where a reading looks changes nothing else;
    4. `Traced.Within.bind`, `within_lengths`, `within_pairs`, `within_loops` —
       where the readers look, and how often;
    5. `decode_stays_inside` — a reading looks only inside the buffer, and at a
       number of places that the length of the buffer bounds.
-/

namespace RequestCredentials.Pairs

variable {data : Bytes}

theorem numberAt_isOk {offset : Nat} (h : offset + 4 ≤ data.length) :
    ∃ n, numberAt data offset = .ok n := by
  have hlength : 4 ≤ (data.drop offset).length := by
    rw [List.length_drop]
    omega
  rw [numberAt]
  generalize data.drop offset = bytes at hlength ⊢
  rcases bytes with _ | ⟨a, _ | ⟨b, _ | ⟨c, _ | ⟨d, rest⟩⟩⟩⟩ <;> simp at hlength ⊢

theorem readLengths_isOk {count offset : Nat} (h : offset + 8 * count ≤ data.length) :
    ∃ lengths, readLengths data offset count = .ok lengths := by
  induction count generalizing offset with
  | zero => exact ⟨[], rfl⟩
  | succ count ih =>
    obtain ⟨name, hname⟩ := numberAt_isOk (show offset + 4 ≤ data.length by omega)
    obtain ⟨value, hvalue⟩ := numberAt_isOk (show offset + 4 + 4 ≤ data.length by omega)
    obtain ⟨lengths, hlengths⟩ := ih (show offset + 8 + 8 * count ≤ data.length by omega)
    simp only [readLengths, bind_eq_ok]
    exact ⟨_, name, hname, value, hvalue, lengths, hlengths, rfl⟩

theorem readTerminated_inside {offset length : Nat} (h : offset + length < data.length)
    (n : Nat) : readTerminated data offset length ≠ .error (.outside n) := by
  rw [readTerminated, List.getElem?_eq_getElem h]
  intro hyp
  simp only at hyp
  split at hyp <;> cases hyp

theorem readPairs_inside {lengths : List (Nat × Nat)} {offset : Nat}
    (h : offset + bodyLength lengths ≤ data.length) (n : Nat) :
    readPairs data offset lengths ≠ .error (.outside n) := by
  induction lengths generalizing offset with
  | nil => simp [readPairs]
  | cons l lengths ih =>
    obtain ⟨nameLength, valueLength⟩ := l
    rw [bodyLength] at h
    simp only [readPairs, ne_eq, bind_eq_error, mapError_eq_error]
    intro hyp
    rcases hyp with hname | ⟨_, -, hvalue | ⟨_, -, ⟨_, -, htext⟩ | ⟨_, -, hrest | ⟨_, -, hend⟩⟩⟩⟩
    · exact readTerminated_inside (by omega) n hname
    · exact readTerminated_inside (by omega) n hvalue
    · cases htext
    · exact ih (by omega) hrest
    · cases hend

/-- A reading of a buffer never looks outside it, whatever number of pairs and whatever lengths the
buffer claims to hold. -/
theorem decode_inside (data : Bytes) (n : Nat) : decode data ≠ .error (.outside n) := by
  simp only [decode, ne_eq, guard_eq_error, bind_eq_error]
  intro hyp
  rcases hyp with ⟨-, ⟨⟩⟩ | ⟨hfour, hcount | ⟨count, -, ⟨-, ⟨⟩⟩ | ⟨hleast, hyp⟩⟩⟩
  · obtain ⟨_, h⟩ := numberAt_isOk (show 0 + 4 ≤ data.length by omega)
    rw [h] at hcount
    cases hcount
  rw [leastLength] at hleast
  rcases hyp with htable | ⟨lengths, -, ⟨-, ⟨⟩⟩ | ⟨hlength, hpairs⟩⟩
  · obtain ⟨_, h⟩ := readLengths_isOk (show 4 + 8 * count ≤ data.length by omega)
    rw [h] at htable
    cases htable
  · exact readPairs_inside (by omega) n hpairs

/-! ## Accesses -/

/-- The ways in which a reading comes to know of a buffer. -/
structure Reader (m : Type → Type) where
  /-- The number at an offset. -/
  number : (offset : Nat) → m Nat
  /-- The bytes at an offset, which a zero byte follows. -/
  terminated : (offset length : Nat) → m Bytes
  /-- What needs no look at the buffer. -/
  known : {α : Type} → Except Fault α → m α

namespace Reader

variable {m : Type → Type} [Monad m] (reader : Reader m)

def lengths (offset : Nat) : (count : Nat) → m (List (Nat × Nat))
  | 0 => pure []
  | count + 1 => do
    let name ← reader.number offset
    let value ← reader.number (offset + 4)
    let rest ← lengths (offset + 8) count
    return (name, value) :: rest

def pairs (offset : Nat) : List (Nat × Nat) → m (List (Text × Bytes))
  | [] => pure []
  | (nameLength, valueLength) :: lengths => do
    let name ← reader.terminated offset nameLength
    let value ← reader.terminated (offset + nameLength + 1) valueLength
    let name ← reader.known ((Utf8.decode name).mapError Fault.name)
    let rest ← pairs (offset + nameLength + 1 + valueLength + 1) lengths
    return (name, value) :: rest

/-- Both loops over `count` pairs, behind the check that a buffer of that length is long enough for
them. -/
def loops (length count : Nat) : m (List (Text × Bytes)) :=
  if length < leastLength count then
    reader.known (.error (.tooShort count (leastLength count) length))
  else do
    let lengths ← reader.lengths 4 count
    let expected := 4 * (1 + 2 * count) + bodyLength lengths
    if length ≠ expected then reader.known (.error (.wrongLength expected length))
    else reader.pairs (4 * (1 + 2 * count)) lengths

/-- The reading of a buffer of that length, all looks at it left to the reader. -/
def decode (length : Nat) : m (List (Text × Bytes)) :=
  if length < 4 then reader.known (.error (.noCount length))
  else reader.number 0 >>= reader.loops length

end Reader

/-- A place where a reader looks: the four bytes of a number from an offset on, or the byte where a
terminator must stand. -/
inductive Access where
  | number (offset : Nat)
  | terminator (offset : Nat)

/-- The buffer holds all bytes of the place. -/
def Access.Inside (data : Bytes) : Access → Prop
  | number offset => offset + 4 ≤ data.length
  | terminator offset => offset < data.length

/-- What a reading comes to, and the places where it looks, in order. -/
structure Traced (α : Type) where
  accesses : List Access
  result : Except Fault α

instance : Monad Traced where
  pure a := ⟨[], .ok a⟩
  bind x f :=
    match x.result with
    | .ok a => ⟨x.accesses ++ (f a).accesses, (f a).result⟩
    | .error fault => ⟨x.accesses, .error fault⟩

/-- The reader of a buffer that notes where it looks. -/
def tracing (data : Bytes) : Reader Traced where
  number offset := ⟨[.number offset], numberAt data offset⟩
  terminated offset length := ⟨[.terminator (offset + length)], readTerminated data offset length⟩
  known result := ⟨[], result⟩

namespace Traced

section
variable {α β : Type} {x : Traced α} {f : α → Traced β}

@[simp]
theorem result_bind : (x >>= f).result = x.result >>= fun a => (f a).result := by
  simp only [bind]
  cases x.result <;> rfl

@[simp]
theorem result_pure (a : α) : (pure a : Traced α).result = .ok a := rfl

theorem accesses_bind_ok {a : α} (h : x.result = .ok a) :
    (x >>= f).accesses = x.accesses ++ (f a).accesses := by
  simp only [bind, h]

theorem accesses_bind_error {fault : Fault} (h : x.result = .error fault) :
    (x >>= f).accesses = x.accesses := by
  simp only [bind, h]

end

end Traced

/-! ### Results -/

theorem result_lengths (offset count : Nat) :
    ((tracing data).lengths offset count).result = readLengths data offset count := by
  induction count generalizing offset with
  | zero => rfl
  | succ count ih =>
    simp only [Reader.lengths, readLengths, Traced.result_bind, Traced.result_pure, ih]
    rfl

theorem result_pairs (offset : Nat) (lengths : List (Nat × Nat)) :
    ((tracing data).pairs offset lengths).result = readPairs data offset lengths := by
  induction lengths generalizing offset with
  | nil => rfl
  | cons l lengths ih =>
    simp only [Reader.pairs, readPairs, Traced.result_bind, Traced.result_pure, ih]
    rfl

theorem result_decode (data : Bytes) :
    ((tracing data).decode data.length).result = decode data := by
  rw [Reader.decode, decode]
  split
  · rfl
  rw [Traced.result_bind]
  refine congrArg (numberAt data 0 >>= ·) (funext fun count => ?_)
  rw [Reader.loops]
  split
  · rfl
  rw [Traced.result_bind, result_lengths]
  refine congrArg (readLengths data 4 count >>= ·) (funext fun lengths => ?_)
  dsimp only
  split
  · rfl
  · exact result_pairs _ lengths

/-! ### Bounds -/

namespace Traced

/-- The reading looks only inside the buffer, and at `n` places at most. -/
structure Within {α : Type} (x : Traced α) (data : Bytes) (n : Nat) : Prop where
  inside : ∀ a ∈ x.accesses, a.Inside data
  atMost : x.accesses.length ≤ n

section
variable {α β : Type} {x : Traced α} {f : α → Traced β} {m n : Nat}

theorem within_known (result : Except Fault α) : ((tracing data).known result).Within data n :=
  ⟨by simp [tracing], Nat.zero_le n⟩

theorem within_pure (a : α) : (pure a : Traced α).Within data n := within_known (.ok a)

theorem Within.mono (h : x.Within data m) (hle : m ≤ n) : x.Within data n :=
  ⟨h.inside, h.atMost.trans hle⟩

/-- A reading goes on with what the one before it has left of `n` places. -/
theorem Within.bind (hx : x.Within data m) (hle : m ≤ n)
    (hf : ∀ a, x.result = .ok a → (f a).Within data (n - m)) : (x >>= f).Within data n := by
  cases hr : x.result with
  | error fault =>
    constructor
    · rw [accesses_bind_error hr]
      exact hx.inside
    · rw [accesses_bind_error hr]
      exact hx.atMost.trans hle
  | ok a =>
    have hfa := hf a hr
    constructor
    · rw [accesses_bind_ok hr]
      exact List.forall_mem_append.mpr ⟨hx.inside, hfa.inside⟩
    · rw [accesses_bind_ok hr, List.length_append]
      have hfirst := hx.atMost
      have hthen := hfa.atMost
      omega

end

end Traced

theorem within_number {offset : Nat} (h : offset + 4 ≤ data.length) :
    ((tracing data).number offset).Within data 1 :=
  ⟨by simpa [tracing, Access.Inside] using h, le_rfl⟩

theorem within_terminated {offset length : Nat} (h : offset + length < data.length) :
    ((tracing data).terminated offset length).Within data 1 :=
  ⟨by simpa [tracing, Access.Inside] using h, le_rfl⟩

theorem within_lengths {offset count : Nat} (h : offset + 8 * count ≤ data.length) :
    ((tracing data).lengths offset count).Within data (2 * count) := by
  induction count generalizing offset with
  | zero => exact Traced.within_pure []
  | succ count ih =>
    have hname := within_number (show offset + 4 ≤ data.length by omega)
    have hvalue := within_number (show offset + 4 + 4 ≤ data.length by omega)
    have hrest := ih (show offset + 8 + 8 * count ≤ data.length by omega)
    rw [Reader.lengths]
    exact hname.bind (by omega) fun _ _ => hvalue.bind (by omega) fun _ _ =>
      hrest.bind (by omega) fun _ _ => Traced.within_pure _

theorem within_pairs {ls : List (Nat × Nat)} {offset : Nat}
    (h : offset + bodyLength ls ≤ data.length) :
    ((tracing data).pairs offset ls).Within data (2 * ls.length) := by
  induction ls generalizing offset with
  | nil => exact Traced.within_pure []
  | cons l ls ih =>
    obtain ⟨nameLength, valueLength⟩ := l
    rw [bodyLength] at h
    have hname := within_terminated (show offset + nameLength < data.length by omega)
    have hvalue := within_terminated
      (show offset + nameLength + 1 + valueLength < data.length by omega)
    have hrest := ih (show offset + nameLength + 1 + valueLength + 1 + bodyLength ls ≤
      data.length by omega)
    rw [Reader.pairs, List.length_cons]
    exact hname.bind (by omega) fun _ _ => hvalue.bind (by omega) fun _ _ =>
      (Traced.within_known (n := 0) _).bind (by omega) fun _ _ =>
        hrest.bind (by omega) fun _ _ => Traced.within_pure _

/-- The loops look only inside the buffer, and nowhere where it is too short for so many pairs. -/
theorem within_loops (data : Bytes) (count : Nat) :
    ((tracing data).loops data.length count).Within data (4 * count) := by
  rw [Reader.loops]
  split
  · exact Traced.within_known _
  · next hleast =>
    -- The check covers the table of lengths. What stands behind it is covered by the equation for
    -- the whole length, which is the bound that the loop over the pairs starts from.
    rw [leastLength] at hleast
    have htable := within_lengths (show 4 + 8 * count ≤ data.length by omega)
    refine htable.bind (by omega) fun ls hls => ?_
    rw [result_lengths] at hls
    obtain ⟨hlength, -⟩ := readLengths_eq_ok.mp hls
    dsimp only
    split
    · exact Traced.within_known _
    · next htotal => exact (within_pairs (by omega)).mono (by omega)

theorem within_decode (data : Bytes) :
    ((tracing data).decode data.length).Within data data.length := by
  rw [Reader.decode]
  split
  · exact Traced.within_known _
  · have hnumber := within_number (show 0 + 4 ≤ data.length by omega)
    refine hnumber.bind (by omega) fun count _ => ?_
    by_cases hleast : data.length < leastLength count
    · rw [Reader.loops, if_pos hleast]
      exact Traced.within_known _
    · rw [leastLength] at hleast
      exact (within_loops data count).mono (by omega)

/-- **A reading of a buffer stays inside it.** All numbers and terminators that it looks for stand
in the buffer, and so it never ends with the fault of a look outside. They are no more than the
buffer has bytes. A buffer too short for the number of pairs is not looked at. Behind that number a
reading looks at four places for each pair at most, and at none unless the buffer holds ten bytes
for each of them behind that number. -/
theorem decode_stays_inside (data : Bytes) :
    ((tracing data).decode data.length).result = decode data ∧
    (∀ access ∈ ((tracing data).decode data.length).accesses, access.Inside data) ∧
    ((tracing data).decode data.length).accesses.length ≤ data.length ∧
    (∀ offset, decode data ≠ .error (.outside offset)) ∧
    (data.length < 4 ∧ ((tracing data).decode data.length).accesses = [] ∨ ∃ count looked,
      numberAt data 0 = .ok count ∧
      ((tracing data).decode data.length).accesses = .number 0 :: looked ∧
      looked.length ≤ 4 * count ∧ (looked ≠ [] → 4 + 10 * count ≤ data.length)) := by
  refine ⟨result_decode data, (within_decode data).inside, (within_decode data).atMost,
    decode_inside data, ?_⟩
  rw [Reader.decode]
  split
  · next hshort => exact .inl ⟨hshort, rfl⟩
  · obtain ⟨count, hcount⟩ := numberAt_isOk (show 0 + 4 ≤ data.length by omega)
    refine .inr ⟨count, ((tracing data).loops data.length count).accesses, hcount, ?_,
      (within_loops data count).atMost, ?_⟩
    · rw [Traced.accesses_bind_ok hcount]
      rfl
    · intro hlooked
      by_contra hshort
      have hleast : data.length < leastLength count := by
        rw [leastLength]
        omega
      rw [Reader.loops, if_pos hleast] at hlooked
      exact hlooked rfl

end RequestCredentials.Pairs
