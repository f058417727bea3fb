import Gattlib.LongReads
import Gattlib.PrimaryDiscovery

namespace Gattlib.MultipleReads

open AttPdus GattDatabase GattServer LongReads DatabaseLayout
open PrimaryDiscovery (batteryServer)

/-- The client may read the attribute with the handle. -/
def answerable (server : BtGattServer) (handle : BitVec 16) : Bool :=
  (gattDbGetAttribute server.db handle).any fun a => checkPermissions server.security a readMask == 0

def valueAt (server : BtGattServer) (handle : BitVec 16) : List UInt8 :=
  ((gattDbGetAttribute server.db handle).map storedValue).getD []

/-- The first handles of a request, as long as the client may read their attributes. -/
def shown (server : BtGattServer) (handles : List (BitVec 16)) : List (BitVec 16) :=
  handles.takeWhile (answerable server)

def shownValues (server : BtGattServer) (handles : List (BitVec 16)) : List UInt8 :=
  (shown server handles).flatMap (valueAt server)

/-- Nothing that the client may not read comes before the end of the response, some bytes of which are
there already. -/
def Covered (server : BtGattServer) (rsp : List UInt8) (handles : List (BitVec 16)) : Prop :=
  shown server handles = handles ∨
    shown server handles ≠ [] ∧ server.attMtu.toNat - 1 ≤ (rsp ++ shownValues server handles).length

/-- The request is answered with an error for the first handle whose attribute cannot be read. -/
def Refused (server : BtGattServer) (handles : List (BitVec 16)) (answer : Answer) : Prop :=
  ∃ handle ecode, handles[(shown server handles).length]? = some handle ∧
    answer = errorRsp attOpReadMultiReq handle ecode

/-- The handle in the error for one of the handles: a first one that is missing is not named. -/
def named (server : BtGattServer) (handles : List (BitVec 16)) (handle : BitVec 16) : BitVec 16 :=
  if shown server handles = [] ∧ (gattDbGetAttribute server.db handle).isNone then 0 else handle

/-- The owners of the attributes are not asked. -/
def Stored (server : BtGattServer) (handles : List (BitVec 16)) : Prop :=
  ∀ handle ∈ handles, ∀ a, gattDbGetAttribute server.db handle = some a → a.readFunc = false

section

variable {server : BtGattServer} {handle : BitVec 16} {handles : List (BitVec 16)} {a : GattDbAttribute}
  {rsp : List UInt8}

theorem answerable_found (h : gattDbGetAttribute server.db handle = some a) :
    answerable server handle = true ↔ checkPermissions server.security a readMask = 0 := by
  rw [answerable, h, Option.any_some, beq_iff_eq]

theorem answerable_missing (h : gattDbGetAttribute server.db handle = none) : answerable server handle = false := by
  rw [answerable, h, Option.any_none]

theorem shown_cons (h : answerable server handle = true) :
    shown server (handle :: handles) = handle :: shown server handles := List.takeWhile_cons_of_pos h

theorem shown_refused (h : ¬answerable server handle = true) : shown server (handle :: handles) = [] :=
  List.takeWhile_cons_of_neg h

theorem shownValues_cons (h : answerable server handle = true) :
    shownValues server (handle :: handles) = valueAt server handle ++ shownValues server handles := by
  rw [shownValues, shown_cons h, List.flatMap_cons, shownValues]

theorem getAttribute_handle (h : gattDbGetAttribute server.db handle = some a) : a.handle = handle := by
  rw [gattDbGetAttribute] at h
  split at h
  · cases h
  · obtain ⟨s, -, hin⟩ := Option.bind_eq_some_iff.mp h
    have hfound := List.find?_some (Option.join_eq_some_iff.mp hin)
    exact eq_of_beq hfound

theorem attributeRead_stored (h : a.readFunc = false) : gattDbAttributeRead a 0 = .value (storedValue a) := by
  have hinside : ¬(0 : BitVec 16) > a.valueLen := BitVec.not_lt_zero
  rw [gattDbAttributeRead, if_neg (by simp [h]), if_neg hinside]
  rfl

/-- What does not fit into the response is cut off. -/
theorem multipleValue_shown (hstored : a.readFunc = false)
    (hallowed : checkPermissions server.security a readMask = 0) (hrsp : rsp.length ≤ server.attMtu.toNat - 1) :
    readMultipleValue server rsp a = .ok ((rsp ++ storedValue a).take (server.attMtu.toNat - 1)) := by
  have hroom : server.attMtu.toNat - rsp.length - 1 = server.attMtu.toNat - 1 - rsp.length := by omega
  rw [readMultipleValue, attributeRead_stored hstored]
  simp only [hallowed, ne_eq, not_true_eq_false, if_false]
  rw [List.take_append, List.take_of_length_le hrsp, hroom]

theorem multipleValue_refused (hstored : a.readFunc = false)
    (hrefused : checkPermissions server.security a readMask ≠ 0) : readMultipleValue server rsp a =
      .error (errorRsp attOpReadMultiReq a.handle (checkPermissions server.security a readMask)) := by
  rw [readMultipleValue, attributeRead_stored hstored]
  exact if_pos hrefused

theorem covered_refused (h : ¬answerable server handle = true) : ¬Covered server rsp (handle :: handles) := by
  rw [Covered, shown_refused h]
  rintro (hall | ⟨hsome, -⟩)
  · exact List.cons_ne_nil _ _ hall.symm
  · exact hsome rfl

theorem refused_first (h : ¬answerable server handle = true) (ecode : UInt8) :
    Refused server (handle :: handles) (errorRsp attOpReadMultiReq handle ecode) :=
  ⟨handle, ecode, by rw [shown_refused h]; rfl, rfl⟩

theorem refused_cons (h : answerable server handle = true) {answer : Answer} (hrest : Refused server handles answer) :
    Refused server (handle :: handles) answer := by
  obtain ⟨bad, ecode, hbad, rfl⟩ := hrest
  refine ⟨bad, ecode, ?_, rfl⟩
  rw [shown_cons h, List.length_cons, List.getElem?_cons_succ, hbad]

theorem covered_cons (h : answerable server handle = true)
    (hroom : (rsp ++ valueAt server handle).length < server.attMtu.toNat - 1) :
    Covered server rsp (handle :: handles) ↔ Covered server (rsp ++ valueAt server handle) handles := by
  have hsame : rsp ++ shownValues server (handle :: handles) =
      rsp ++ valueAt server handle ++ shownValues server handles := by
    rw [shownValues_cons h, List.append_assoc]
  rw [Covered, Covered, hsame, shown_cons h, List.cons_inj_right]
  refine or_congr_right ⟨fun ⟨_, hlong⟩ => ⟨fun hnone => ?_, hlong⟩, fun ⟨_, hlong⟩ =>
    ⟨List.cons_ne_nil _ _, hlong⟩⟩
  rw [shownValues, hnone, List.flatMap_nil, List.append_nil] at hlong
  exact absurd hlong (Nat.not_le.mpr hroom)

/-- The answer to a request for some handles, with the bytes that those before them have given. -/
structure Answers (server : BtGattServer) (rsp : List UInt8) (handles : List (BitVec 16)) (answer : Answer) :
    Prop where
  covered : Covered server rsp handles → answer =
    .sent ⟨attOpReadMultiResp, (rsp ++ shownValues server handles).take (server.attMtu.toNat - 1)⟩
  refused : ¬Covered server rsp handles → Refused server handles answer

theorem answers_refused (h : ¬answerable server handle = true) (ecode : UInt8) :
    Answers server rsp (handle :: handles) (errorRsp attOpReadMultiReq handle ecode) :=
  ⟨fun hcovered => absurd hcovered (covered_refused h), fun _ => refused_first h ecode⟩

theorem answers_cons (h : answerable server handle = true)
    (hroom : (rsp ++ valueAt server handle).length < server.attMtu.toNat - 1) {answer : Answer}
    (hrest : Answers server (rsp ++ valueAt server handle) handles answer) :
    Answers server rsp (handle :: handles) answer := by
  have hsame : Covered server rsp (handle :: handles) ↔ Covered server (rsp ++ valueAt server handle) handles :=
    covered_cons h hroom
  refine ⟨fun hcovered => ?_, fun hnot => refused_cons h (hrest.refused fun hc => hnot (hsame.mpr hc))⟩
  rw [shownValues_cons h, ← List.append_assoc]
  exact hrest.covered (hsame.mp hcovered)

theorem answers_full (h : answerable server handle = true)
    (hfull : server.attMtu.toNat - 1 ≤ (rsp ++ valueAt server handle).length) :
    Answers server rsp (handle :: handles)
      (.sent ⟨attOpReadMultiResp, (rsp ++ valueAt server handle).take (server.attMtu.toNat - 1)⟩) := by
  have hvalues : rsp ++ shownValues server (handle :: handles) =
      rsp ++ valueAt server handle ++ shownValues server handles := by
    rw [shownValues_cons h, List.append_assoc]
  have hcovered : Covered server rsp (handle :: handles) := by
    refine .inr ⟨by rw [shown_cons h]; exact List.cons_ne_nil _ _, ?_⟩
    rw [hvalues, List.length_append]
    exact hfull.trans (Nat.le_add_right _ _)
  refine ⟨fun _ => ?_, fun hnot => absurd hcovered hnot⟩
  rw [hvalues, List.take_append_of_le_length hfull]

theorem valueAt_found (h : gattDbGetAttribute server.db handle = some a) : valueAt server handle = storedValue a := by
  rw [valueAt, h]
  rfl

/-- The attribute of one handle decides, unless the client may read it and the response has place left. -/
theorem complete_first (hfound : gattDbGetAttribute server.db handle = some a) (hread : a.readFunc = false)
    (hrsp : rsp.length ≤ server.attMtu.toNat - 1) :
    Answers server rsp (handle :: handles) (readMultipleCompleteCb server handles rsp a) ∨
      answerable server handle = true ∧ (rsp ++ valueAt server handle).length < server.attMtu.toNat - 1 ∧
        readMultipleValue server rsp a = .ok (rsp ++ valueAt server handle) := by
  rw [valueAt_found hfound]
  by_cases hans : answerable server handle = true
  · have hvalue := multipleValue_shown hread ((answerable_found hfound).mp hans) hrsp
    by_cases hfull : server.attMtu.toNat - 1 ≤ (rsp ++ storedValue a).length
    · have hlen : ((rsp ++ storedValue a).take (server.attMtu.toNat - 1)).length ≥ server.attMtu.toNat - 1 := by
        rw [List.length_take, Nat.min_eq_left hfull]
      left
      rw [readMultipleCompleteCb.eq_def]
      simp only [hvalue, if_pos hlen]
      rw [← valueAt_found hfound] at hfull ⊢
      exact answers_full hans hfull
    · have hroom := Nat.lt_of_not_le hfull
      rw [List.take_of_length_le (Nat.le_of_lt hroom)] at hvalue
      exact .inr ⟨hans, hroom, hvalue⟩
  · left
    have hrefused : readMultipleValue server rsp a = _ :=
      multipleValue_refused hread fun h => hans ((answerable_found hfound).mpr h)
    rw [getAttribute_handle hfound] at hrefused
    rw [readMultipleCompleteCb.eq_def]
    simp only [hrefused]
    exact answers_refused hans _

/-- The attribute of one handle, and then those of the others as long as the response has place left. -/
theorem complete_answers (hfound : gattDbGetAttribute server.db handle = some a)
    (hstored : Stored server (handle :: handles)) (hrsp : rsp.length ≤ server.attMtu.toNat - 1) :
    Answers server rsp (handle :: handles) (readMultipleCompleteCb server handles rsp a) := by
  have hread := hstored handle List.mem_cons_self a hfound
  induction handles generalizing handle a rsp with
  | nil =>
    rcases complete_first hfound hread hrsp with hdone | ⟨hans, hroom, hvalue⟩
    · exact hdone
    · refine answers_cons hans hroom ⟨fun _ => ?_, fun hnot => absurd (.inl rfl) hnot⟩
      rw [readMultipleCompleteCb, hvalue]
      simp only [ite_self]
      rw [shownValues, shown, List.takeWhile_nil, List.flatMap_nil, List.append_nil,
        List.take_of_length_le (Nat.le_of_lt hroom)]
  | cons next handles ih =>
    rcases complete_first hfound hread hrsp with hdone | ⟨hans, hroom, hvalue⟩
    · exact hdone
    · have hrest : Stored server (next :: handles) := fun h hin => hstored h (List.mem_cons_of_mem _ hin)
      refine answers_cons hans hroom ?_
      rw [readMultipleCompleteCb, hvalue]
      simp only [ge_iff_le, if_neg (Nat.not_le.mpr hroom)]
      cases hnext : gattDbGetAttribute server.db next with
      | none => exact answers_refused (by rw [answerable_missing hnext]; exact Bool.false_ne_true) _
      | some b => exact ih hnext hrest (Nat.le_of_lt hroom) (hrest next List.mem_cons_self b hnext)

/-- The first handle of those that cannot be read is named, if it is not the first of all, or is found. -/
theorem named_found (hfound : gattDbGetAttribute server.db handle = some a) {bad : BitVec 16}
    (hbad : (handle :: handles)[(shown server (handle :: handles)).length]? = some bad) :
    named server (handle :: handles) bad = bad := by
  refine if_neg fun ⟨hnone, hmissing⟩ => ?_
  rw [hnone] at hbad
  obtain rfl := Option.some.inj hbad
  rw [hfound] at hmissing
  cases hmissing

theorem handlesIn_put (handles : List (BitVec 16)) : handlesIn (handles.flatMap putLe16) = handles := by
  induction handles with
  | nil => rfl
  | cons handle handles ih =>
    have hhead : getLe16 (putLe16 handle ++ []) = handle := getLe16_putLe16 handle []
    rw [List.flatMap_cons, show putLe16 handle = [_, _] from rfl]
    rw [show putLe16 handle ++ [] = [_, _] from rfl] at hhead
    simp only [List.cons_append, List.nil_append, handlesIn, ih]
    rw [hhead]

/-- A client that asks for some attributes, the owners of which are not asked, gets the values that it may
read, one behind the other and without their lengths, as far as the response has place for them. If there is
one that it may not read before that, it gets an error that names it, unless it is the first and missing. -/
theorem multiple_read (junk : ℕ → UInt8) (server : BtGattServer) (handles : List (BitVec 16))
    (hlen : 2 ≤ handles.length) (hstored : Stored server handles) :
    (Covered server [] handles → handleRequest junk server ⟨attOpReadMultiReq, handles.flatMap putLe16⟩ =
        (server, .sent ⟨attOpReadMultiResp, (shownValues server handles).take (server.attMtu.toNat - 1)⟩)) ∧
      (¬Covered server [] handles → ∃ handle ecode, handles[(shown server handles).length]? = some handle ∧
        handleRequest junk server ⟨attOpReadMultiReq, handles.flatMap putLe16⟩ =
          (server, errorRsp attOpReadMultiReq (named server handles handle) ecode)) := by
  have hhandler : handleRequest junk server ⟨attOpReadMultiReq, handles.flatMap putLe16⟩ =
      (server, readMultipleCb server (handles.flatMap putLe16)) := rfl
  rw [hhandler]
  cases handles with
  | nil => cases hlen
  | cons handle handles =>
    have hsize : ¬((handle :: handles).flatMap putLe16).length < 4 := by
      rw [List.length_flatMap]
      simp only [putLe16_length, List.map_const', List.sum_replicate_nat]
      omega
    rw [readMultipleCb, if_neg hsize, List.flatMap_cons, getLe16_putLe16]
    cases hfound : gattDbGetAttribute server.db handle with
    | none =>
      have hans : ¬answerable server handle = true := by
        rw [answerable_missing hfound]
        exact Bool.false_ne_true
      refine ⟨fun hcovered => absurd hcovered (covered_refused hans), fun _ => ?_⟩
      have hnamed : named server (handle :: handles) handle = 0 :=
        if_pos ⟨shown_refused hans, by rw [hfound]; rfl⟩
      exact ⟨handle, _, by rw [shown_refused hans]; rfl, by rw [hnamed]⟩
    | some a =>
      have hrest : (putLe16 handle ++ handles.flatMap putLe16).drop 2 = handles.flatMap putLe16 :=
        List.drop_left' (putLe16_length handle)
      have hanswers : Answers server [] (handle :: handles) _ := complete_answers hfound hstored (Nat.zero_le _)
      rw [hrest, handlesIn_put]
      refine ⟨fun hcovered => congrArg (Prod.mk server) (hanswers.covered hcovered), fun hnot => ?_⟩
      obtain ⟨bad, ecode, hbad, heq⟩ := hanswers.refused hnot
      exact ⟨bad, ecode, hbad, by rw [named_found hfound hbad]; exact congrArg (Prod.mk server) heq⟩

/-! The declarations of the battery service and of its level -/

theorem battery_stored : Stored batteryServer [1, 2] := by
  intro handle hin a hfound
  rcases List.mem_cons.mp hin with rfl | hin
  · obtain rfl := Option.some.inj hfound
    rfl
  · obtain rfl := List.mem_singleton.mp hin
    obtain rfl := Option.some.inj hfound
    rfl

theorem multiple_read_battery :
    handleRequest (fun _ => 0) batteryServer ⟨attOpReadMultiReq, [1, 2].flatMap putLe16⟩ =
      (batteryServer, .sent ⟨attOpReadMultiResp, [0x0F, 0x18, 0x12, 0x03, 0x00, 0x19, 0x2A]⟩) :=
  (multiple_read (fun _ => 0) batteryServer [1, 2] (by decide) battery_stored).1 (.inl rfl)

end

end Gattlib.MultipleReads
