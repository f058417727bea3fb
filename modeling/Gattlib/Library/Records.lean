import Mathlib.Algebra.Group.Nat.Defs
import Mathlib.Data.List.Basic
import Mathlib.Data.Nat.Notation

namespace Library.Records

/-! Words with the low byte first -/

/-- The `w` low bytes of a number. -/
def putWord : ℕ → ℕ → List UInt8
  | 0, _ => []
  | w + 1, n => UInt8.ofNat n :: putWord w (n / 256)

def getWord : List UInt8 → ℕ
  | [] => 0
  | b :: bs => b.toNat + 256 * getWord bs

@[simp] theorem putWord_length (w n : ℕ) : (putWord w n).length = w := by
  induction w generalizing n with
  | zero => rfl
  | succ w ih => rw [putWord, List.length_cons, ih]

theorem getWord_putWord (w n : ℕ) : getWord (putWord w n) = n % 256 ^ w := by
  induction w generalizing n with
  | zero => simp [putWord, getWord, Nat.mod_one]
  | succ w ih =>
    have hpow : 256 ^ (w + 1) = 256 * 256 ^ w := by rw [Nat.pow_succ, Nat.mul_comm]
    rw [putWord, getWord, ih, UInt8.toNat_ofNat', hpow, Nat.mod_mul]

theorem putWord_getWord (bs : List UInt8) : putWord bs.length (getWord bs) = bs := by
  induction bs with
  | nil => rfl
  | cons b bs ih =>
    have hlow : UInt8.ofNat (b.toNat + 256 * getWord bs) = b := by
      rw [← UInt8.toNat_inj, UInt8.toNat_ofNat']
      have := b.toNat_lt
      omega
    have hhigh : (b.toNat + 256 * getWord bs) / 256 = getWord bs := by
      have := b.toNat_lt
      omega
    rw [List.length_cons, getWord, putWord, hlow, hhigh, ih]

theorem getWord_lt (bs : List UInt8) : getWord bs < 256 ^ bs.length := by
  have h := congrArg getWord (putWord_getWord bs)
  rw [getWord_putWord] at h
  rw [← h]
  exact Nat.mod_lt _ (Nat.pow_pos (by decide))

/-! Records of one size, one behind the other -/

variable {α : Type} {size count room w : ℕ} {records : List (List α)} {bytes rest : List α}

/-- The first `count` records. -/
def splitRecords (size : ℕ) : ℕ → List α → List (List α)
  | 0, _ => []
  | count + 1, bytes => bytes.take size :: splitRecords size count (bytes.drop size)

/-- The records that are written from the offset `w` on, as long as the next one ends within
the room. -/
def fitting (size room : ℕ) : ℕ → List (List α) → List (List α)
  | _, [] => []
  | w, d :: ds => if w + size ≤ room then d :: fitting size room (w + size) ds else []

@[simp] theorem splitRecords_length (size count : ℕ) (bytes : List α) :
    (splitRecords size count bytes).length = count := by
  induction count generalizing bytes with
  | zero => rfl
  | succ count ih => rw [splitRecords, List.length_cons, ih]

theorem splitRecords_size (h : count * size ≤ bytes.length) :
    ∀ d ∈ splitRecords size count bytes, d.length = size := by
  induction count generalizing bytes with
  | zero => intro d hd; simp [splitRecords] at hd
  | succ count ih =>
    rw [Nat.succ_mul] at h
    intro d hd
    rcases List.mem_cons.mp hd with rfl | hd
    · rw [List.length_take]
      omega
    · exact ih (by rw [List.length_drop]; omega) d hd

theorem splitRecords_flatten (h : ∀ d ∈ records, d.length = size) (rest : List α) :
    splitRecords size records.length (records.flatten ++ rest) = records := by
  induction records with
  | nil => rfl
  | cons d ds ih =>
    have hd : d.length = size := h d (by simp)
    rw [List.length_cons, List.flatten_cons, List.append_assoc, splitRecords, ← hd,
      List.take_left, List.drop_left, hd, ih (fun e he => h e (by simp [he]))]

theorem flatten_splitRecords (size count : ℕ) (bytes : List α) :
    (splitRecords size count bytes).flatten = bytes.take (count * size) := by
  induction count generalizing bytes with
  | zero => simp [splitRecords]
  | succ count ih =>
    rw [splitRecords, List.flatten_cons, ih, Nat.succ_mul, Nat.add_comm, List.take_add]

theorem flatten_length (h : ∀ d ∈ records, d.length = size) :
    records.flatten.length = records.length * size := by
  induction records with
  | nil => simp
  | cons d ds ih =>
    rw [List.flatten_cons, List.length_append, h d (by simp), ih (fun e he => h e (by simp [he])),
      List.length_cons, Nat.succ_mul]
    omega

theorem fitting_take (hpos : 0 < size) (hw : w ≤ room) :
    fitting size room w records = records.take ((room - w) / size) := by
  induction records generalizing w with
  | nil => simp [fitting]
  | cons d ds ih =>
    rw [fitting]
    by_cases hfit : w + size ≤ room
    · have hstep : (room - w) / size = (room - (w + size)) / size + 1 := by
        rw [← Nat.add_div_right _ hpos]
        congr 1
        omega
      rw [if_pos hfit, ih hfit, hstep, List.take_succ_cons]
    · rw [if_neg hfit, Nat.div_eq_of_lt (by omega), List.take_zero]

theorem fitting_all (h : w + records.length * size ≤ room) : fitting size room w records = records := by
  induction records generalizing w with
  | nil => rfl
  | cons d ds ih =>
    rw [List.length_cons, Nat.succ_mul] at h
    rw [fitting, if_pos (by omega), ih (by omega)]

/-- What is taken of some elements, each of which becomes a record behind the offset `w`: one of them at
least, and no more than there is place for. -/
theorem page_room {β : Type} {l : List β} (hpos : 0 < size) (hroom : w + size ≤ room) (hl : l ≠ []) :
    l.take ((room - w) / size) ≠ [] ∧ w + (l.take ((room - w) / size)).length * size ≤ room := by
  have hone : 1 ≤ (room - w) / size := (Nat.le_div_iff_mul_le hpos).mpr (by omega)
  have hmul := Nat.div_mul_le_self (room - w) size
  have hcount := Nat.mul_le_mul_right size (List.length_take_le ((room - w) / size) l)
  refine ⟨fun hnil => ?_, by omega⟩
  rcases List.take_eq_nil_iff.mp hnil with hzero | hnil
  · omega
  · exact hl hnil

/-- Such a part of a list, which begins with its first element and those that `p` holds of behind it. -/
theorem page_split {β : Type} (p : β → Bool) (b : β) (rest : List β) (k : ℕ) :
    ∃ more, b :: rest = (b :: rest.takeWhile p).take k ++ more := by
  refine ⟨(b :: rest.takeWhile p).drop k ++ rest.dropWhile p, ?_⟩
  rw [← List.append_assoc, List.take_append_drop, List.cons_append, List.takeWhile_append_dropWhile]

/-! Reading each record, which may fail -/

section

variable {β ε : Type} {f : α → Except ε β} {g : α → β} {l : List α} {r : List β} {e : ε}

theorem mapM_ok (h : ∀ x ∈ l, f x = .ok (g x)) : l.mapM f = .ok (l.map g) := by
  induction l with
  | nil => rfl
  | cons x l ih =>
    rw [List.mapM_cons, h x (by simp), ih (fun y hy => h y (by simp [hy]))]
    rfl

theorem mapM_mem (h : l.mapM f = .ok r) : ∀ y ∈ r, ∃ x ∈ l, f x = .ok y := by
  induction l generalizing r with
  | nil =>
    cases h
    simp
  | cons x l ih =>
    rw [List.mapM_cons] at h
    cases hx : f x with
    | error e =>
      rw [hx] at h
      cases h
    | ok y =>
      rw [hx] at h
      cases hl : l.mapM f with
      | error e =>
        rw [hl] at h
        cases h
      | ok ys =>
        rw [hl] at h
        cases h
        intro z hz
        rcases List.mem_cons.mp hz with rfl | hz
        · exact ⟨x, by simp, hx⟩
        · obtain ⟨w, hw, hf⟩ := ih hl z hz
          exact ⟨w, by simp [hw], hf⟩

theorem filterM_one (p : α → Except ε Bool) (x : α) :
    [x].filterM p = (p x).map fun b => if b then [x] else [] := by
  cases hp : p x with
  | error e => simp [List.filterM, List.filterAuxM, hp]; rfl
  | ok b => cases b <;> simp [List.filterM, List.filterAuxM, hp] <;> rfl

/-- A loop in which one item alone finds something. -/
theorem mapM_one {f : α → Except ε (List β)} {pre post : List α} {x : α} (hpre : ∀ y ∈ pre, f y = .ok [])
    (hpost : ∀ y ∈ post, f y = .ok []) : ((pre ++ x :: post).mapM f).map List.flatten = f x := by
  induction pre with
  | nil =>
    have hnone : (post.map fun _ => ([] : List β)).flatten = [] := by simp
    rw [List.nil_append, List.mapM_cons, mapM_ok hpost]
    cases f x with
    | error e => rfl
    | ok found =>
      show Except.ok (found ++ (post.map fun _ => []).flatten) = _
      rw [hnone, List.append_nil]
  | cons y pre ih =>
    have hrest := ih fun z hz => hpre z (List.mem_cons_of_mem _ hz)
    rw [List.cons_append, List.mapM_cons, hpre y List.mem_cons_self, ← hrest]
    cases (pre ++ x :: post).mapM f <;> rfl

end

end Library.Records
