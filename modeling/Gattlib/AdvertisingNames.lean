import Gattlib.Library.Fields

namespace Gattlib.AdvertisingNames

open Library.Fields

/-- EIR_NAME_SHORT -/
def eirNameShort : UInt8 := 0x08

/-- EIR_NAME_COMPLETE -/
def eirNameComplete : UInt8 := 0x09

/-- What a function has made of the bytes it has read, and their offsets in the buffer. -/
structure Parsed where
  name : Option (List UInt8)
  reads : List ℕ

/-- Some bytes are read before a result. -/
def Parsed.after (offsets : List ℕ) (p : Parsed) : Parsed := { p with reads := offsets ++ p.reads }

/-- `strndup` on the bytes from an offset on, with memory enough for the copy. -/
def strndup (memory : ℕ → UInt8) : ℕ → ℕ → Parsed
  | _, 0 => ⟨some [], []⟩
  | start, n + 1 =>
    if memory start = 0 then ⟨some [], [start]⟩
    else
      let copy := strndup memory (start + 1) n
      ⟨copy.name.map (memory start :: ·), start :: copy.reads⟩

/-- The loop of `parse_name`, with its cursor `data` as an offset in the buffer, too. -/
def parseLoop (memory : ℕ → UInt8) (size data offset : ℕ) : Parsed :=
  if offset < size then
    let fieldLen := (memory data).toNat
    if fieldLen = 0 ∨ offset + fieldLen > size then ⟨none, [data]⟩
    else if memory (data + 1) = eirNameShort ∨ memory (data + 1) = eirNameComplete then
      let nameLen := fieldLen - 1
      if nameLen > size then ⟨none, [data, data + 1]⟩
      else (strndup memory (data + 2) nameLen).after [data, data + 1]
    else
      (parseLoop memory size (data + (fieldLen + 1)) (offset + (fieldLen + 1))).after
        [data, data + 1]
  else ⟨none, []⟩
termination_by size - offset

def parseName (memory : ℕ → UInt8) (size : ℕ) : Parsed := parseLoop memory size 0 0

/-- A buffer with whatever lies behind it. -/
def memoryOf (buffer : List UInt8) (behind : ℕ → UInt8) (i : ℕ) : UInt8 :=
  buffer.getD i (behind i)

/-- A field of one of the two types of names. -/
def isName (field : List UInt8) : Bool :=
  field.head? = some eirNameShort || field.head? = some eirNameComplete

/-- The payload of a field, up to the first zero. -/
def payload (field : List UInt8) : List UInt8 := field.tail.takeWhile (· ≠ 0)

/-- The first name among the complete fields. -/
def firstName (buffer : List UInt8) : Option (List UInt8) :=
  ((splitFields buffer).1.find? isName).map payload

/-- The first name is found, and nothing is read outside of the buffer. -/
structure Right (buffer : List UInt8) (p : Parsed) : Prop where
  inside : ∀ i ∈ p.reads, i < buffer.length
  found : p.name = firstName buffer

/-- A field that has one byte too few, and either none at all or the type of a name. -/
def cutShort : List UInt8 → Bool
  | [] => false
  | len :: rest => len.toNat = rest.length + 1 && (rest = [] || isName rest)

/-- No complete field is a name, and the one after them is cut short. -/
def Overread (buffer : List UInt8) : Prop :=
  (splitFields buffer).1.find? isName = none ∧ cutShort (splitFields buffer).2 = true

/-- What the loop makes of the part of the buffer that is left. -/
def RightFrom (buffer : List UInt8) (behind : ℕ → UInt8) (suffix : List UInt8) (offset : ℕ) :
    Prop :=
  let p := parseLoop (memoryOf buffer behind) buffer.length offset offset
  (∀ i ∈ p.reads, i < buffer.length) ∧ p.name = firstName suffix

section

variable {memory behind : ℕ → UInt8} {size data offset start n : ℕ} {len : UInt8}
variable {buffer rest bs : List UInt8}

/-! What the copy of a name reads -/

/-- The copy is made of the bytes up to the first zero, and no byte behind them is read. -/
theorem strndup_copies (h : ∀ i (hi : i < bs.length), memory (start + i) = bs[i]) :
    (strndup memory start bs.length).name = some (bs.takeWhile (· ≠ 0)) ∧
      ∀ i ∈ (strndup memory start bs.length).reads, i < start + bs.length := by
  induction bs generalizing start with
  | nil => exact ⟨rfl, fun i hi => absurd hi List.not_mem_nil⟩
  | cons b bs ih =>
    have hb : memory start = b := h 0 (Nat.zero_lt_succ _)
    have hbs : ∀ i (hi : i < bs.length), memory (start + 1 + i) = bs[i] := by
      intro i hi
      have hnext := h (i + 1) (Nat.succ_lt_succ hi)
      have hadd : start + 1 + i = start + (i + 1) := by omega
      rw [hadd]
      exact hnext
    obtain ⟨hname, hreads⟩ := ih hbs
    rw [List.length_cons, strndup, hb]
    by_cases hzero : b = 0
    · simp [hzero]
    · rw [if_neg hzero]
      constructor
      · simp [hname, hzero]
      · simp only [List.mem_cons]
        rintro i (rfl | hi)
        · omega
        · have := hreads i hi
          omega

theorem strndup_some (memory : ℕ → UInt8) (start n : ℕ) :
    (strndup memory start n).name.isSome = true := by
  induction n generalizing start with
  | zero => rfl
  | succ n ih =>
    rw [strndup]
    split
    · rfl
    · simp [ih]

/-! The steps of the loop -/

theorem loop_ends (h : size ≤ offset) : parseLoop memory size data offset = ⟨none, []⟩ := by
  rw [parseLoop, if_neg (by omega)]

theorem loop_stops (hoff : offset < size)
    (h : (memory data).toNat = 0 ∨ offset + (memory data).toNat > size) :
    parseLoop memory size data offset = ⟨none, [data]⟩ := by
  rw [parseLoop, if_pos hoff]
  exact if_pos h

theorem loop_named (hoff : offset < size) (hpos : 0 < (memory data).toNat)
    (hlen : offset + (memory data).toNat ≤ size)
    (h : memory (data + 1) = eirNameShort ∨ memory (data + 1) = eirNameComplete) :
    parseLoop memory size data offset =
      (strndup memory (data + 2) ((memory data).toNat - 1)).after [data, data + 1] := by
  rw [parseLoop, if_pos hoff]
  dsimp only
  rw [if_neg (by omega), if_pos h, if_neg (by omega)]

theorem loop_goes (hoff : offset < size) (hpos : 0 < (memory data).toNat)
    (hlen : offset + (memory data).toNat ≤ size)
    (h : ¬(memory (data + 1) = eirNameShort ∨ memory (data + 1) = eirNameComplete)) :
    parseLoop memory size data offset = (parseLoop memory size (data + ((memory data).toNat + 1))
      (offset + ((memory data).toNat + 1))).after [data, data + 1] := by
  rw [parseLoop, if_pos hoff]
  dsimp only
  rw [if_neg (by omega), if_neg h]

/-- Once the length has been accepted the type is read. -/
theorem type_read (hoff : offset < size) (hpos : 0 < (memory data).toNat)
    (hlen : offset + (memory data).toNat ≤ size) :
    data + 1 ∈ (parseLoop memory size data offset).reads := by
  by_cases h : memory (data + 1) = eirNameShort ∨ memory (data + 1) = eirNameComplete
  · rw [loop_named hoff hpos hlen h]
    simp [Parsed.after]
  · rw [loop_goes hoff hpos hlen h]
    simp [Parsed.after]

/-! The bytes of the buffer -/

theorem memory_drop (behind : ℕ → UInt8) (h : buffer.drop offset = bs) {i : ℕ} (hi : i < bs.length) :
    memoryOf buffer behind (offset + i) = bs[i] := by
  subst h
  rw [List.length_drop] at hi
  have hi : offset + i < buffer.length := by omega
  simp [memoryOf, hi]

theorem drop_length (h : buffer.drop offset = len :: rest) :
    buffer.length = offset + (rest.length + 1) := by
  have hlength := congrArg List.length h
  rw [List.length_drop, List.length_cons] at hlength
  omega

theorem memory_head (behind : ℕ → UInt8) (h : buffer.drop offset = len :: rest) :
    memoryOf buffer behind offset = len :=
  memory_drop behind h (Nat.zero_lt_succ _)

/-- The type of a field that is not empty decides whether it is a name. -/
theorem memory_isName (behind : ℕ → UInt8) (h : buffer.drop offset = len :: rest)
    (hne : rest ≠ []) :
    isName rest = true ↔ memoryOf buffer behind (offset + 1) = eirNameShort ∨
      memoryOf buffer behind (offset + 1) = eirNameComplete := by
  cases rest with
  | nil => exact absurd rfl hne
  | cons t ts =>
    have ht : memoryOf buffer behind (offset + 1) = t := memory_drop behind h (by simp)
    simp [isName, ht]

/-! The fields from one on -/

theorem isName_take (hpos : 0 < n) : isName (rest.take n) = isName rest := by
  cases rest with
  | nil => simp
  | cons t ts =>
    obtain ⟨m, rfl⟩ := Nat.exists_eq_succ_of_ne_zero (by omega : n ≠ 0)
    rfl

/-- A complete field that is a name ends the loop. -/
theorem named_right (behind : ℕ → UInt8) (h : buffer.drop offset = len :: rest)
    (hpos : 0 < len.toNat) (hlen : len.toNat ≤ rest.length) (hname : isName rest = true) :
    RightFrom buffer behind (len :: rest) offset ∧ ¬Overread (len :: rest) := by
  have hsize := drop_length h
  have hhead := memory_head behind h
  have hne : rest ≠ [] := List.ne_nil_of_length_pos (by omega)
  have hfind : (splitFields (len :: rest)).1.find? isName = some (rest.take len.toNat) := by
    rw [split_field hpos hlen, List.find?_cons_of_pos]
    rw [isName_take hpos, hname]
  have hbytes : ∀ i (hi : i < (rest.take len.toNat).tail.length),
      memoryOf buffer behind (offset + 2 + i) = (rest.take len.toNat).tail[i] := by
    intro i hi
    rw [List.length_tail, List.length_take] at hi
    have hlt : i + 2 < (len :: rest).length := by
      rw [List.length_cons]
      omega
    have hadd : offset + 2 + i = offset + (i + 2) := by omega
    rw [hadd, memory_drop behind h hlt]
    simp
  have hcopied := strndup_copies hbytes
  rw [List.length_tail, List.length_take, Nat.min_eq_left hlen] at hcopied
  constructor
  · rw [RightFrom, loop_named (by omega) (by rwa [hhead]) (by rw [hhead]; omega)
      ((memory_isName behind h hne).mp hname), hhead]
    constructor
    · simp only [Parsed.after, List.cons_append, List.nil_append, List.mem_cons]
      rintro i (rfl | rfl | hi)
      · omega
      · omega
      · have hread := hcopied.2 i hi
        omega
    · rw [firstName, hfind]
      exact hcopied.1
  · rintro ⟨hnone, _⟩
    rw [hfind] at hnone
    cases hnone

/-- A complete field of another type is passed over. -/
theorem skipped_right (behind : ℕ → UInt8) (h : buffer.drop offset = len :: rest)
    (hpos : 0 < len.toNat) (hlen : len.toNat ≤ rest.length) (hname : isName rest = false) :
    (RightFrom buffer behind (len :: rest) offset ↔
      RightFrom buffer behind (rest.drop len.toNat) (offset + (len.toNat + 1))) ∧
    (Overread (len :: rest) ↔ Overread (rest.drop len.toNat)) := by
  have hsize := drop_length h
  have hhead := memory_head behind h
  have hne : rest ≠ [] := List.ne_nil_of_length_pos (by omega)
  have hother := (not_congr (memory_isName behind h hne)).mp (by simp [hname])
  have hfind : (splitFields (len :: rest)).1.find? isName =
      (splitFields (rest.drop len.toNat)).1.find? isName := by
    rw [split_field hpos hlen, List.find?_cons_of_neg]
    rw [isName_take hpos, hname]
    decide
  constructor
  · rw [RightFrom, RightFrom, loop_goes (by omega) (by rwa [hhead]) (by rw [hhead]; omega) hother,
      hhead, firstName, firstName, hfind]
    simp only [Parsed.after, List.cons_append, List.nil_append, List.forall_mem_cons]
    exact ⟨fun h => ⟨h.1.2.2, h.2⟩, fun h => ⟨⟨by omega, by omega, h.1⟩, h.2⟩⟩
  · rw [Overread, Overread, hfind, split_field hpos hlen]

/-- A field that is not complete is found to be one, unless it is one byte too short. -/
theorem stuck_right (h : buffer.drop offset = len :: rest)
    (hstuck : ¬(0 < len.toNat ∧ len.toNat ≤ rest.length)) :
    RightFrom buffer behind (len :: rest) offset ↔ ¬Overread (len :: rest) := by
  have hsize := drop_length h
  have hhead := memory_head behind h
  have hnone : firstName (len :: rest) = none := by simp [firstName, split_stuck hstuck]
  have hover : Overread (len :: rest) ↔ cutShort (len :: rest) = true := by
    simp [Overread, split_stuck hstuck]
  rw [hover, RightFrom, hnone]
  by_cases hstop : len.toNat = 0 ∨ offset + len.toNat > buffer.length
  · rw [loop_stops (by omega) (by rwa [hhead]), cutShort]
    have hcut : len.toNat ≠ rest.length + 1 := by omega
    simp [hcut]
    omega
  · have hcut : len.toNat = rest.length + 1 := by omega
    have hpos : 0 < (memoryOf buffer behind offset).toNat := by
      rw [hhead]
      omega
    have hlen : offset + (memoryOf buffer behind offset).toNat ≤ buffer.length := by
      rw [hhead]
      omega
    cases rest with
    | nil =>
      -- the type is read from behind the buffer
      have hread := type_read (by omega) hpos hlen
      have hcutShort : cutShort [len] = true := by simp [cutShort, hcut]
      simp only [hcutShort, not_true_eq_false, iff_false]
      intro hright
      have hinside := hright.1 _ hread
      rw [hsize] at hinside
      exact absurd hinside (Nat.lt_irrefl _)
    | cons t ts =>
      have htype := memory_isName behind h (List.cons_ne_nil t ts)
      have hcutShort : cutShort (len :: t :: ts) = isName (t :: ts) := by simp [cutShort, hcut]
      rw [hcutShort]
      cases hname : isName (t :: ts) with
      | true =>
        -- the name is copied although it is not complete
        have hsome := strndup_some (memoryOf buffer behind) (offset + 2)
          ((memoryOf buffer behind offset).toNat - 1)
        rw [loop_named (by omega) hpos hlen (htype.mp hname)]
        simp only [not_true_eq_false, iff_false]
        intro hright
        have hcopied : (strndup (memoryOf buffer behind) (offset + 2)
          ((memoryOf buffer behind offset).toNat - 1)).name = none := hright.2
        rw [hcopied] at hsome
        cases hsome
      | false =>
        rw [loop_goes (by omega) hpos hlen ((not_congr htype).mp (by simp [hname])),
          loop_ends (by rw [hhead]; omega)]
        simp only [List.length_cons] at hsize
        simp [Parsed.after]
        omega

theorem loop_right (h : buffer.drop offset = rest) :
    RightFrom buffer behind rest offset ↔ ¬Overread rest := by
  induction rest using splitFields.induct generalizing offset with
  | case1 =>
    have hsize : buffer.length ≤ offset := List.drop_eq_nil_iff.mp h
    rw [RightFrom, loop_ends hsize]
    simp [firstName, Overread, cutShort]
  | case2 len rest hfield ih =>
    cases hname : isName rest with
    | true =>
      obtain ⟨hright, hover⟩ := named_right behind h hfield.1 hfield.2 hname
      exact iff_of_true hright hover
    | false =>
      obtain ⟨hright, hover⟩ := skipped_right behind h hfield.1 hfield.2 hname
      have hrest : buffer.drop (offset + (len.toNat + 1)) = rest.drop len.toNat := by
        rw [← List.drop_drop, h, List.drop_succ_cons]
      rw [hright, hover]
      exact ih hrest
  | case3 len rest hstuck => exact stuck_right h hstuck

end

/-- The name is right, and nothing is read from behind the buffer, exactly when no field that
is one byte too short is taken for a complete one. -/
theorem right_iff (buffer : List UInt8) (behind : ℕ → UInt8) :
    Right buffer (parseName (memoryOf buffer behind) buffer.length) ↔ ¬Overread buffer := by
  have hloop : RightFrom buffer behind buffer 0 ↔ ¬Overread buffer := loop_right List.drop_zero
  rw [← hloop]
  exact ⟨fun h => ⟨h.inside, h.found⟩, fun h => ⟨h.1, h.2⟩⟩

/-- A name of two bytes that lacks the last one -/
def cutName : List UInt8 := [3, 9, 65]

theorem name_overread : ¬∀ (buffer : List UInt8) (behind : ℕ → UInt8),
    Right buffer (parseName (memoryOf buffer behind) buffer.length) := by
  intro h
  have hright := h cutName (fun _ => 66)
  have hover : ¬Overread cutName := (loop_right List.drop_zero).mp ⟨hright.inside, hright.found⟩
  have hstuck : ¬(0 < (3 : UInt8).toNat ∧ (3 : UInt8).toNat ≤ [(9 : UInt8), 65].length) := by decide
  have hsplit : splitFields cutName = ([], cutName) := split_stuck hstuck
  refine hover ⟨?_, ?_⟩
  · rw [hsplit]
    rfl
  · rw [hsplit]
    rfl

end Gattlib.AdvertisingNames
