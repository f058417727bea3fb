import Mathlib.Data.List.Basic
import Mathlib.Data.Nat.Notation

namespace Library.Buffers

/-! Strings of the C library in a buffer of a fixed size, with every access checked against it -/

/-- An access outside of the buffer, or one to a buffer that has been freed. -/
inductive Fault
  | read (offset : ℕ)
  | write (offset : ℕ)
  | freed
  deriving DecidableEq

variable {n k : ℕ} {b : Vector UInt8 n} {s front back rest : List UInt8} {c d : UInt8}

def read (b : Vector UInt8 n) (i : ℕ) : Except Fault UInt8 :=
  if h : i < n then .ok b[i] else .error (.read i)

def write (b : Vector UInt8 n) (i : ℕ) (c : UInt8) : Except Fault (Vector UInt8 n) :=
  if h : i < n then .ok (b.set i c) else .error (.write i)

/-- `strlen` reads up to the first zero. Without one it gets to the end of the buffer. -/
def strlen (b : Vector UInt8 n) : Except Fault (Fin n) :=
  match b.findFinIdx? (· == 0) with
  | some i => .ok i
  | none => .error (.read n)

/-- `strncpy` of a string: exactly `k` bytes are written, zeros behind a shorter string and no
zero behind a longer one. -/
def strncpy (b : Vector UInt8 n) (s : List UInt8) (k : ℕ) : Except Fault (Vector UInt8 n) :=
  if h : k ≤ n then
    .ok ⟨(s.take k ++ List.replicate (k - s.length) 0 ++ b.toList.drop k).toArray, by
      simp only [List.size_toArray, List.length_append, List.length_take, List.length_replicate,
        List.length_drop, Vector.length_toList]
      omega⟩
  else .error (.write n)

/-- The string that a function is given which reads a buffer up to the first zero. -/
def string (b : Vector UInt8 n) : Except Fault (List UInt8) :=
  (strlen b).map (fun len => b.toList.take len)

/-- A buffer holds a string, with some bytes behind the zero. -/
structure Holds (b : Vector UInt8 n) (s rest : List UInt8) : Prop where
  bytes : b.toList = s ++ 0 :: rest
  nul_free : 0 ∉ s

theorem Holds.length_lt (h : Holds b s rest) : s.length < n := by
  have hlen := congrArg List.length h.bytes
  rw [Vector.length_toList, List.length_append, List.length_cons] at hlen
  omega

theorem Holds.front_lt (h : Holds b (front ++ c :: back) rest) : front.length < n := by
  have hlen := h.length_lt
  rw [List.length_append] at hlen
  omega

theorem strlen_holds (h : Holds b s rest) : strlen b = .ok ⟨s.length, h.length_lt⟩ := by
  obtain ⟨xs, rfl⟩ := b
  have hlen := h.length_lt
  have hget : ∀ i (hi : i < xs.size) c, (s ++ 0 :: rest)[i]? = some c → xs[i] = c := by
    intro i hi c hc
    rw [← h.bytes] at hc
    have hc : xs[i]? = some c := Array.getElem?_toList.symm.trans hc
    rw [Array.getElem?_eq_getElem hi] at hc
    exact Option.some.inj hc
  have hfind : xs.findFinIdx? (· == 0) = some ⟨s.length, hlen⟩ := by
    rw [Array.findFinIdx?_eq_some_iff]
    constructor
    · have hzero : xs[s.length] = 0 := hget s.length hlen 0 (by simp)
      exact beq_iff_eq.mpr hzero
    · rintro ⟨j, hsize⟩ hj
      have hj : j < s.length := hj
      have hchar : xs[j] = s[j] := by
        refine hget j hsize s[j] ?_
        rw [List.getElem?_append_left hj, List.getElem?_eq_getElem hj]
      rw [beq_iff_eq, Fin.getElem_fin, hchar]
      exact fun hzero => h.nul_free (hzero ▸ List.getElem_mem hj)
  rw [strlen, Vector.findFinIdx?, hfind]
  rfl

theorem strlen_fault (h : 0 ∉ b.toList) : strlen b = .error (.read n) := by
  have hfind : b.findFinIdx? (· == 0) = none := by
    rw [Vector.findFinIdx?_eq_none_iff]
    rintro c hc hzero
    rw [beq_iff_eq] at hzero
    exact h (hzero ▸ Vector.mem_toList_iff.mpr hc)
  rw [strlen, hfind]

theorem string_holds (h : Holds b s rest) : string b = .ok s := by
  rw [string, strlen_holds h, h.bytes]
  exact congrArg Except.ok (List.take_left' rfl)

/-- The bytes of the string can be read one by one. -/
theorem read_holds (h : Holds b (front ++ c :: back) rest) : read b front.length = .ok c := by
  have hlt := h.front_lt
  have hget : b[front.length] = c := by
    have hat : b.toList[front.length]? = some c := by
      rw [h.bytes, List.append_assoc, List.getElem?_append_right (Nat.le_refl _)]
      simp
    rw [List.getElem?_eq_getElem (by rw [Vector.length_toList]; exact hlt)] at hat
    exact Option.some.inj hat
  rw [read, dif_pos hlt, hget]

theorem write_toList {i : ℕ} (hi : i < n) (c : UInt8) :
    ∃ b', write b i c = .ok b' ∧ b'.toList = b.toList.set i c :=
  ⟨b.set i c, dif_pos hi, Vector.toList_set hi⟩

/-- A byte of the string that is replaced by another one leaves its length alone. -/
theorem write_holds (h : Holds b (front ++ c :: back) rest) (hd : d ≠ 0) :
    ∃ b', write b front.length d = .ok b' ∧ Holds b' (front ++ d :: back) rest := by
  have hlt := h.front_lt
  obtain ⟨b', hwrite, hbytes⟩ := write_toList (b := b) hlt d
  refine ⟨b', hwrite, ?_, ?_⟩
  · rw [hbytes, h.bytes, List.append_assoc, List.append_assoc,
      List.set_append_right _ _ (Nat.le_refl _), Nat.sub_self]
    rfl
  · have hfree := h.nul_free
    simp only [List.mem_append, List.mem_cons, not_or] at hfree ⊢
    exact ⟨hfree.1, hd.symm, hfree.2.2⟩

/-- A zero behind the string, or at its end, does not change it. -/
theorem write_zero (h : Holds b s rest) (hs : s.length ≤ k) (hk : k < n) :
    ∃ b' rest', write b k 0 = .ok b' ∧ Holds b' s rest' := by
  obtain ⟨b', hwrite, hbytes⟩ := write_toList (b := b) hk 0
  rw [h.bytes, List.set_append_right _ _ hs] at hbytes
  cases hi : k - s.length with
  | zero =>
    rw [hi] at hbytes
    exact ⟨b', rest, hwrite, hbytes, h.nul_free⟩
  | succ i =>
    rw [hi] at hbytes
    exact ⟨b', rest.set i 0, hwrite, hbytes, h.nul_free⟩

theorem strncpy_toList (hk : k ≤ n) (s : List UInt8) : ∃ b', strncpy b s k = .ok b' ∧
    b'.toList = s.take k ++ List.replicate (k - s.length) 0 ++ b.toList.drop k :=
  ⟨_, dif_pos hk, rfl⟩

/-- A string that is shorter than what is copied is terminated by the copy. -/
theorem strncpy_short (hs : 0 ∉ s) (hlen : s.length < k) (hk : k ≤ n) :
    ∃ b' rest, strncpy b s k = .ok b' ∧ Holds b' s rest := by
  obtain ⟨b', hcopy, hbytes⟩ := strncpy_toList (b := b) hk s
  obtain ⟨m, hm⟩ : ∃ m, k - s.length = m + 1 := ⟨k - s.length - 1, by omega⟩
  rw [List.take_of_length_le (by omega), hm, List.replicate_succ, List.append_assoc] at hbytes
  exact ⟨b', _, hcopy, hbytes, hs⟩

/-- Another string is followed by what has been in the buffer. -/
theorem strncpy_long (hlen : k ≤ s.length) (hk : k ≤ n) :
    ∃ b', strncpy b s k = .ok b' ∧ b'.toList = s.take k ++ b.toList.drop k := by
  obtain ⟨b', hcopy, hbytes⟩ := strncpy_toList (b := b) hk s
  rw [Nat.sub_eq_zero_of_le hlen, List.replicate_zero, List.append_nil] at hbytes
  exact ⟨b', hcopy, hbytes⟩

end Library.Buffers
