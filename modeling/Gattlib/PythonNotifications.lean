import Gattlib.UuidText

namespace Gattlib.PythonNotifications

open Library.Text Uuids UuidText

/-- A callback with the user data it is registered with. -/
structure Callback where
  function : ℕ
  callable : Bool
  userData : ℕ
  deriving DecidableEq

/-- `gattlib_uuid_to_int`. For a type it does not know it returns an exception object,
which is a key that nothing else is equal to. -/
def gattlibUuidToInt : Uuid → Option ℕ
  | .uuid16 value => some value.toNat
  | .uuid32 value => some value.toNat
  | .uuid128 value => some (bigEndian value.data)
  | .other _ => none

/-- The members of a `Device` that its notifications use. -/
structure Device where
  /-- `_is_notification_init` -/
  isNotificationInit : Bool := false
  /-- `_gatt_characteristic_callbacks`: a key is missing, or its value is `None` or a callback -/
  callbacks : ℕ → Option (Option Callback) := fun _ => none

def setCallback (d : Device) (u : Uuid) (value : Option Callback) : Device :=
  match gattlibUuidToInt u with
  | some key => { d with callbacks := Function.update d.callbacks key (some value) }
  | none => d

/-- What the characteristic with a UUID is told. -/
inductive Call
  | registerNotification (u : Uuid) (callback : Callback)
  | unregisterNotification (u : Uuid)

/-- A callback that is not callable is refused before anything is changed. -/
def perform (d : Device) : Call → Device
  | .registerNotification u callback =>
    if callback.callable then
      setCallback { d with isNotificationInit := true } u (some callback)
    else d
  | .unregisterNotification u => setCallback d u none

/-- The device after some calls, the last one first. -/
def after : List Call → Device
  | [] => {}
  | call :: calls => perform (after calls) call

inductive PyError
  | valueError | runtimeError | typeError
  deriving DecidableEq

/-- What comes of a notification. -/
inductive Outcome
  | nothing
  | called (callback : Callback) (value : List UInt8)
  | raised (e : PyError)
  deriving DecidableEq

/-- A number of 32 digits. -/
def hexNumber (hex : List UInt8) : Option ℕ :=
  match readDigits 32 0 hex with
  | (32, n, []) => some n
  | _ => none

/-- `uuid.UUID(text).int` -/
def pythonUuidInt (text : List UInt8) : Option ℕ :=
  hexNumber ((strip (chars "\x7b\x7d")
    (removed (chars "uuid:") 0 (removed (chars "urn:") 0 text))).filter (fun c => c ≠ 45))

/-- What is done with the entry of a key. `None` has no item 'callback'. -/
def callEntry (entry : Option (Option Callback)) (data : List UInt8) : Outcome :=
  match entry with
  | none => .raised .runtimeError
  | some none => .raised .typeError
  | some (some callback) => .called callback data

/-- `Device._notification_callback` -/
def notificationCallback (d : Device) (uuidStr data : List UInt8) : Outcome :=
  match pythonUuidInt uuidStr with
  | none => .raised .valueError
  | some key => callEntry (d.callbacks key) data

/-- `gattlib_notification_device_python_callback`, once it has been registered. -/
def notify (d : Device) (u : Uuid) (data : List UInt8) : Outcome :=
  if d.isNotificationInit then
    let (ret, uuidStr) := gattlibUuidToString u (maxLenUuidStr + 1)
    if ret ≠ 0 then .nothing else notificationCallback d uuidStr data
  else .nothing

/-- What the last call for a UUID of a kind has left: a callback, or none. -/
def lastFor (p : Uuid → Bool) : List Call → Option (Option Callback)
  | [] => none
  | .registerNotification u callback :: calls =>
    if callback.callable && p u then some (some callback) else lastFor p calls
  | .unregisterNotification u :: calls => if p u then some none else lastFor p calls

def sameUuid (u w : Uuid) : Bool := w = u

def sameKey (u w : Uuid) : Bool := gattlibUuidToInt w = gattlibUuidToInt u

/-- The callback last registered for `u` is called, nothing happens if it has been
unregistered, and no callback is called if none was ever registered. -/
def Routed (calls : List Call) (u : Uuid) (data : List UInt8) : Prop :=
  match lastFor (sameUuid u) calls with
  | some (some callback) => notify (after calls) u data = .called callback data
  | some none => notify (after calls) u data = .nothing
  | none => ∀ callback value, notify (after calls) u data ≠ .called callback value

def Long : Uuid → Prop
  | .uuid128 _ => True
  | _ => False

/-- A call that registers a callback with the library, too. -/
def Registers : Call → Prop
  | .registerNotification _ callback => callback.callable = true
  | .unregisterNotification _ => False

/-- The UUID has the long form, and the last call with its integer registers the same
callback; nothing was ever registered on the device; or no callback is registered with its integer. -/
def Routable (calls : List Call) (u : Uuid) : Prop :=
  match lastFor (sameUuid u) calls with
  | some (some callback) => Long u ∧ lastFor (sameKey u) calls = some (some callback)
  | some none => ∀ call ∈ calls, ¬Registers call
  | none => Long u → ∀ callback, lastFor (sameKey u) calls ≠ some (some callback)

section

variable {calls : List Call} {u : Uuid} {n : ℕ} {v : Uint128} {data : List UInt8}

/-! The keys -/

theorem init_iff : (after calls).isNotificationInit = true ↔ ∃ call ∈ calls, Registers call := by
  have hset : ∀ (d : Device) u value, (setCallback d u value).isNotificationInit =
      d.isNotificationInit := by
    intro d u value
    rw [setCallback]
    split <;> rfl
  induction calls with
  | nil => simp [after]
  | cons call calls ih =>
    rw [List.exists_mem_cons_iff, after]
    cases call with
    | registerNotification u callback =>
      rw [perform, Registers]
      split
      · next hc => simp [hset, hc]
      · next hc => simpa [hc] using ih
    | unregisterNotification u => simpa [perform, Registers, hset] using ih

theorem setCallback_same {d : Device} {value : Option Callback} (h : gattlibUuidToInt u = some n) :
    (setCallback d u value).callbacks n = some value := by
  rw [setCallback, h]
  exact Function.update_self ..

theorem setCallback_other {d : Device} {value : Option Callback} (h : gattlibUuidToInt u ≠ some n) :
    (setCallback d u value).callbacks n = d.callbacks n := by
  rw [setCallback]
  split
  · next key hkey =>
    exact Function.update_of_ne (fun he : n = key => h (he ▸ hkey)) ..
  · rfl

/-- The dictionary holds what the last call with a key has left. -/
theorem callbacks_last (hu : gattlibUuidToInt u = some n) :
    (after calls).callbacks n = lastFor (sameKey u) calls := by
  have hsame : ∀ w, sameKey u w = true ↔ gattlibUuidToInt w = some n := by
    intro w
    rw [sameKey, hu, decide_eq_true_iff]
  induction calls with
  | nil => rfl
  | cons call calls ih =>
    cases call with
    | registerNotification w callback =>
      rw [after, perform, lastFor]
      cases hc : callback.callable with
      | false => exact ih
      | true =>
        rw [if_pos rfl, Bool.true_and]
        split
        · next hw => exact setCallback_same ((hsame w).mp hw)
        · next hw =>
          rw [setCallback_other (fun he => hw ((hsame w).mpr he))]
          exact ih
    | unregisterNotification w =>
      rw [after, perform, lastFor]
      split
      · next hw => exact setCallback_same ((hsame w).mp hw)
      · next hw =>
        rw [setCallback_other (fun he => hw ((hsame w).mpr he))]
        exact ih

/-! The printed text as Python reads it -/

/-- Only hyphens are removed from a text without u, { and }. -/
theorem pythonUuidInt_plain {text : List UInt8} (h : ∀ c ∈ text, c ≠ 117 ∧ c ∉ chars "\x7b\x7d") :
    pythonUuidInt text = hexNumber (text.filter (fun c => c ≠ 45)) := by
  have hu : (117 : UInt8) ∉ text := fun hm => (h 117 hm).1 rfl
  have hurn : chars "urn:" = [117, 114, 110, 58] := by decide
  have huuid : chars "uuid:" = [117, 117, 105, 100, 58] := by decide
  rw [pythonUuidInt, hurn, huuid, removed_absent hu, removed_absent hu,
    strip_absent (fun c hc => (h c hc).2)]

theorem hexDigit_plain {c : UInt8} {w m : ℕ} (h : c ∈ hexDigits w m) :
    c ≠ 117 ∧ c ∉ chars "\x7b\x7d" ∧ c ≠ 45 := by
  have hall : ∀ m, m < 16 → hexDigit m ≠ 117 ∧ hexDigit m ∉ chars "\x7b\x7d" ∧ hexDigit m ≠ 45 := by
    decide
  obtain ⟨m, hm, rfl⟩ := mem_hexDigits h
  exact hall m hm

/-- The text of a short UUID is too short, and begins with 0x. -/
theorem pythonUuidInt_short (w m : ℕ) : pythonUuidInt (chars "0x" ++ hexDigits w m) = none := by
  have hzero : chars "0x" = [48, 120] := by decide
  rw [pythonUuidInt_plain]
  · rw [hzero, List.filter_append]
    rfl
  · intro c hc
    rcases List.mem_append.mp hc with hc | hc
    · have hall : ∀ c ∈ chars "0x", c ≠ 117 ∧ c ∉ chars "\x7b\x7d" := by
        rw [hzero, List.forall_mem_cons, List.forall_mem_singleton]
        decide
      exact hall c hc
    · exact ⟨(hexDigit_plain hc).1, (hexDigit_plain hc).2.1⟩

theorem filter_hexDigits (w m : ℕ) : (hexDigits w m).filter (fun c => c ≠ 45) = hexDigits w m := by
  refine List.filter_eq_self.mpr (fun c hc => ?_)
  rw [decide_eq_true_iff]
  exact (hexDigit_plain hc).2.2

/-- The number that the six numbers of a UUID make up. -/
def fieldsInt (f : Fields) : ℕ :=
  ((((f.data0.toNat * 16 ^ 4 + f.data1.toNat) * 16 ^ 4 + f.data2.toNat) * 16 ^ 4 +
    f.data3.toNat) * 16 ^ 8 + f.data4.toNat) * 16 ^ 4 + f.data5.toNat

theorem digits_longText (f : Fields) :
    (longText f).filter (fun c => c ≠ 45) = hexDigits 32 (fieldsInt f) := by
  have hdash : (chars "-").filter (fun c => c ≠ 45) = [] := by decide
  simp only [longText, List.filter_append, filter_hexDigits, hdash, List.append_nil]
  rw [hexDigits_append f.data1.isLt, hexDigits_append f.data2.isLt, hexDigits_append f.data3.isLt,
    hexDigits_append f.data4.isLt, hexDigits_append f.data5.isLt]
  rfl

theorem fieldsInt_lt (f : Fields) : fieldsInt f < 16 ^ 32 := by
  have h0 := f.data0.isLt
  have h1 := f.data1.isLt
  have h2 := f.data2.isLt
  have h3 := f.data3.isLt
  have h4 := f.data4.isLt
  have h5 := f.data5.isLt
  rw [fieldsInt]
  omega

theorem fieldsInt_fieldsOf (v : Uint128) : fieldsInt (fieldsOf v) = bigEndian v.data := by
  obtain ⟨data, size⟩ := v
  match data, size with
  | [b0, b1, b2, b3, b4, b5, b6, b7, b8, b9, b10, b11, b12, b13, b14, b15], size =>
    have hb := fun b : UInt8 => b.toNat_lt
    have h0 := hb b0
    have h1 := hb b1
    have h2 := hb b2
    have h3 := hb b3
    have h4 := hb b4
    have h5 := hb b5
    have h6 := hb b6
    have h7 := hb b7
    have h8 := hb b8
    have h9 := hb b9
    have h10 := hb b10
    have h11 := hb b11
    have h12 := hb b12
    have h13 := hb b13
    have h14 := hb b14
    have h15 := hb b15
    simp only [fieldsInt, fieldsOf, field, List.drop_succ_cons, List.drop_zero, List.take_succ_cons,
      List.take_zero, BitVec.toNat_ofNat, bigEndian, List.length_cons, List.length_nil]
    omega

theorem pythonUuidInt_long (v : Uint128) :
    pythonUuidInt (longText (fieldsOf v)) = some (bigEndian v.data) := by
  have hread := readDigits_append (v := 0) (s := []) 0 (fieldsInt_lt (fieldsOf v))
  rw [Nat.zero_add, Nat.zero_mul, Nat.zero_add, List.append_nil] at hread
  rw [pythonUuidInt_plain, digits_longText, hexNumber, hread, fieldsInt_fieldsOf]
  · rfl
  · intro c hc
    have hdash : ∀ c ∈ chars "-", c ≠ 117 ∧ c ∉ chars "\x7b\x7d" := by
      have hchars : chars "-" = [45] := by decide
      rw [hchars, List.forall_mem_singleton]
      decide
    have hdigit : ∀ {w m}, c ∈ hexDigits w m → c ≠ 117 ∧ c ∉ chars "\x7b\x7d" := fun hc =>
      ⟨(hexDigit_plain hc).1, (hexDigit_plain hc).2.1⟩
    simp only [longText, List.mem_append] at hc
    rcases hc with (((((((((hc | hc) | hc) | hc) | hc) | hc) | hc) | hc) | hc) | hc)
    · exact hdigit hc
    · exact hdash c hc
    · exact hdigit hc
    · exact hdash c hc
    · exact hdigit hc
    · exact hdash c hc
    · exact hdigit hc
    · exact hdash c hc
    · exact hdigit hc
    · exact hdigit hc

/-! Notifications -/

/-- For a short UUID the text is refused. -/
theorem notify_short (hk : Known u) (hl : ¬Long u) (hinit : (after calls).isNotificationInit = true) :
    notify (after calls) u data = .raised .valueError := by
  cases u with
  | uuid16 x =>
    rw [notify, if_pos hinit, toString_uuid16 (by decide)]
    simp [notificationCallback, pythonUuidInt_short]
  | uuid32 y =>
    rw [notify, if_pos hinit, toString_uuid32 (by decide)]
    simp [notificationCallback, pythonUuidInt_short]
  | uuid128 v => exact absurd trivial hl
  | other type => exact hk.elim

/-- For a long UUID the last call with its integer decides. -/
theorem notify_long (hl : Long u) (hinit : (after calls).isNotificationInit = true) :
    notify (after calls) u data = callEntry (lastFor (sameKey u) calls) data := by
  cases u with
  | uuid128 v =>
    rw [notify, if_pos hinit, toString_uuid128 (by decide)]
    simp only [notificationCallback, pythonUuidInt_long]
    rw [callbacks_last (u := .uuid128 v) rfl]
    rfl
  | uuid16 x => exact hl.elim
  | uuid32 y => exact hl.elim
  | other type => exact hl.elim

theorem notify_off (h : ¬∃ call ∈ calls, Registers call) :
    notify (after calls) u data = .nothing := by
  rw [← init_iff] at h
  rw [notify, if_neg h]

theorem lastFor_registers {p : Uuid → Bool} {callback : Callback}
    (h : lastFor p calls = some (some callback)) : ∃ call ∈ calls, Registers call := by
  induction calls with
  | nil => cases h
  | cons call calls ih =>
    rw [List.exists_mem_cons_iff]
    cases call with
    | registerNotification w c =>
      rw [lastFor] at h
      split at h
      · next hc => exact Or.inl (Bool.and_eq_true_iff.mp hc).1
      · exact Or.inr (ih h)
    | unregisterNotification w =>
      rw [lastFor] at h
      split at h
      · cases h
      · exact Or.inr (ih h)

theorem callEntry_called {entry : Option (Option Callback)} {callback : Callback}
    {value : List UInt8} : callEntry entry data = .called callback value ↔
      entry = some (some callback) ∧ value = data := by
  rcases entry with _ | _ | c
  · simp [callEntry]
  · simp [callEntry]
  · simp [callEntry, eq_comm]

theorem callEntry_something (entry : Option (Option Callback)) : callEntry entry data ≠ .nothing := by
  rcases entry with _ | _ | c
  · exact fun h => Outcome.noConfusion h
  · exact fun h => Outcome.noConfusion h
  · exact fun h => Outcome.noConfusion h

/-- A notification for which a callback is called. -/
theorem notify_called (hk : Known u) {callback : Callback} {value : List UInt8} :
    notify (after calls) u data = .called callback value ↔
      Long u ∧ lastFor (sameKey u) calls = some (some callback) ∧ value = data := by
  by_cases hreg : ∃ call ∈ calls, Registers call
  · have hinit := init_iff.mpr hreg
    by_cases hl : Long u
    · rw [notify_long hl hinit, callEntry_called]
      exact ⟨fun h => ⟨hl, h⟩, fun h => h.2⟩
    · rw [notify_short hk hl hinit]
      exact ⟨fun h => Outcome.noConfusion h, fun h => absurd h.1 hl⟩
  · rw [notify_off hreg]
    exact ⟨fun h => Outcome.noConfusion h, fun h => absurd (lastFor_registers h.2.1) hreg⟩

theorem notify_nothing (hk : Known u) :
    notify (after calls) u data = .nothing ↔ ¬∃ call ∈ calls, Registers call := by
  refine ⟨fun h hreg => ?_, notify_off⟩
  have hinit := init_iff.mpr hreg
  by_cases hl : Long u
  · rw [notify_long hl hinit] at h
    exact callEntry_something _ h
  · rw [notify_short hk hl hinit] at h
    cases h

end

theorem routed_iff {calls : List Call} {u : Uuid} (hk : Known u) (data : List UInt8) :
    Routed calls u data ↔ Routable calls u := by
  unfold Routed Routable
  split
  · rw [notify_called hk]
    exact ⟨fun h => ⟨h.1, h.2.1⟩, fun h => ⟨h.1, h.2, rfl⟩⟩
  · rw [notify_nothing hk]
    exact ⟨fun h call hm hr => h ⟨call, hm, hr⟩, fun h ⟨call, hm, hr⟩ => h call hm hr⟩
  · constructor
    · exact fun h hl callback he => h callback data ((notify_called hk).mpr ⟨hl, he, rfl⟩)
    · intro h callback value he
      obtain ⟨hl, hlast, _⟩ := (notify_called hk).mp he
      exact h hl callback hlast

def printer : Callback := ⟨0, true, 0⟩

/-- The battery level, registered by its short UUID. -/
theorem short_uuid_raises : ¬∀ (calls : List Call) (u : Uuid) (data : List UInt8), Known u →
    Routed calls u data := by
  intro h
  have hrouted := h [.registerNotification (.uuid16 0x2A19) printer] (.uuid16 0x2A19) [100] trivial
  have hraised : notify (after [.registerNotification (.uuid16 0x2A19) printer]) (.uuid16 0x2A19) [100] =
      .raised .valueError := by decide
  exact absurd (hraised.symm.trans hrouted) (fun he => Outcome.noConfusion he)

def vendor : Uuid := .uuid128 ⟨List.replicate 16 0xEF, by decide⟩

theorem routed_vendor : Routed [.registerNotification vendor printer] vendor [1] ∧
    notify (after [.registerNotification vendor printer]) vendor [1] = .called printer [1] := by
  have hknown : Known vendor := trivial
  have hrouted : Routed [.registerNotification vendor printer] vendor [1] :=
    (routed_iff hknown [1]).mpr ⟨trivial, rfl⟩
  exact ⟨hrouted, hrouted⟩

end Gattlib.PythonNotifications
