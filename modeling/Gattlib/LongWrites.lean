import Gattlib.AttributeUpdates
import Gattlib.LongReads

namespace Gattlib.LongWrites

open AttPdus GattDatabase GattServer GattDiscovery GattValues AttributeUpdates LongReads
open Library.Buffers Library.Dialogue

/-- The server stores what a client writes to an attribute. -/
structure Stores (server : BtGattServer) (handle : BitVec 16) (a : GattDbAttribute) : Prop where
  found : gattDbGetAttribute server.db handle = some a
  stored : a.writeFunc = false
  allowed : checkPermissions server.security a writeMask = 0
  idle : server.pendingWriteOp = false

/-- It stores what comes in parts as well: nothing else is prepared. -/
structure Accepts (server : BtGattServer) (handle : BitVec 16) (a : GattDbAttribute) : Prop
    extends Stores server handle a where
  empty : server.prepQueue = []
  place : 1 < server.maxPrepQueueLen

/-- The server when the first bytes of a value are prepared. -/
structure Prepared (server : BtGattServer) (handle : BitVec 16) (done : List UInt8)
    (server' : BtGattServer) : Prop where
  same : server' = { server with prepQueue := server'.prepQueue }
  queue : (server'.prepQueue = [] ∧ done = []) ∨
    ∃ d, server'.prepQueue = [d] ∧ d.handle = handle ∧ d.offset = 0 ∧ d.value = done ∧ d.freed = false

/-- The pages that the client sends of a value come to exactly 65536 bytes, before the last one or with it. -/
def Wraps (room : ℕ) (value : List UInt8) : Prop :=
  value.length = 65536 ∨ 65536 < value.length ∧ room - 5 ∣ 65536

/-- The server when a value is written. -/
def wrote (junk : ℕ → UInt8) (server : BtGattServer) (handle : BitVec 16) (value : List UInt8) :
    BtGattServer :=
  { server with db := storeAt junk server.db handle 0 value }

section

variable {server server' : BtGattServer} {handle handle' : BitVec 16} {a : GattDbAttribute} {junk : ℕ → UInt8}
  {done page rest value : List UInt8} {room n : ℕ}

/-! The value that is stored -/

theorem storeValue_front (junk : ℕ → UInt8) (a : GattDbAttribute) (hlt : value.length < 65536) :
    storedValue (storeValue junk a 0 value) = value ++ (storedValue a).drop value.length := by
  have hzero : BitVec.toNat (0 : BitVec 16) = 0 := rfl
  rw [storeValue]
  by_cases hnil : value = []
  · rw [if_pos hnil, hnil]
    rfl
  · rw [if_neg hnil]
    by_cases hgrows : (0 : BitVec 16) ≥ a.valueLen ∨ value.length > a.valueLen.toNat - BitVec.toNat (0 : BitVec 16)
    · rw [if_pos hgrows]
      have hlong : a.valueLen.toNat ≤ value.length := by
        rcases hgrows with h | h
        · have : a.valueLen.toNat ≤ 0 := h
          omega
        · rw [hzero] at h
          omega
      have hnone : (storedValue a).drop value.length = [] := by
        rw [List.drop_eq_nil_iff, storedValue_length]
        exact hlong
      have hlen : (BitVec.ofNat 16 (value.length + BitVec.toNat (0 : BitVec 16))).toNat = value.length := by
        rw [hzero, BitVec.toNat_ofNat]
        omega
      rw [hnone, List.append_nil, storedValue, hlen]
      exact List.take_length
    · rw [if_neg hgrows]
      have hfits : value.length ≤ a.valueLen.toNat := by
        have h := (not_or.mp hgrows).2
        rw [hzero] at h
        omega
      show (a.value.take 0 ++ value ++ a.value.drop (0 + value.length)).take a.valueLen.toNat = _
      rw [List.take_zero, List.nil_append, Nat.zero_add, List.take_append, List.take_of_length_le hfits,
        storedValue, List.drop_take]

theorem storeValue_kept (junk : ℕ → UInt8) (a : GattDbAttribute) (value : List UInt8) :
    (storeValue junk a 0 value).readFunc = a.readFunc ∧
      (storeValue junk a 0 value).permissions = a.permissions := by
  rw [storeValue]
  split
  · exact ⟨rfl, rfl⟩
  · split <;> exact ⟨rfl, rfl⟩

theorem wrote_found (h : gattDbGetAttribute server.db handle = some a) (junk : ℕ → UInt8)
    (value : List UInt8) :
    gattDbGetAttribute (wrote junk server handle value).db handle = some (storeValue junk a 0 value) := by
  rw [wrote, storeAt, getAttribute_update, if_pos rfl, h]
  rfl

theorem wrote_other (junk : ℕ → UInt8) (hne : handle' ≠ handle) :
    gattDbGetAttribute (wrote junk server handle value).db handle' = gattDbGetAttribute server.db handle' := by
  rw [wrote, storeAt, getAttribute_update, if_neg hne]

/-! Preparing at the server -/

/-- The payload of a request to prepare a page behind some bytes, and of its response. -/
def pagePayload (handle : BitVec 16) (done page : List UInt8) : List UInt8 :=
  putLe16 handle ++ putLe16 (BitVec.ofNat 16 done.length) ++ page

/-- What becomes of a page behind the bytes of a piece depends on their number: it fits, the piece is freed,
or the server writes behind its buffer. -/
theorem append_page {d : PrepWriteData} (hvalue : d.value = done) (hfreed : d.freed = false) (hpage : page ≠ []) :
    ((done ++ page).length < 65536 → ∃ d', appendPrepData d page = .ok (d', true) ∧ d'.handle = d.handle ∧
      d'.offset = d.offset ∧ d'.value = done ++ page ∧ d'.freed = false) ∧
    ((done ++ page).length = 65536 → appendPrepData d page = .ok ({ d with freed := true }, false)) ∧
    (65536 < (done ++ page).length → done.length < 65536 → page.length < 65536 →
      appendPrepData d page = .error (.write done.length)) := by
  have hlen : d.length.toNat = done.length := by rw [d.stored, hvalue]
  rw [appendPrepData, if_neg hpage, if_neg (Bool.eq_false_iff.mp hfreed), List.length_append]
  refine ⟨fun hfits => ?_, fun hsum => ?_, fun hover hlt hshort => ?_⟩
  · rw [dif_pos (by omega)]
    exact ⟨_, rfl, rfl, rfl, congrArg (· ++ page) hvalue, hfreed⟩
  · rw [dif_neg (by omega), if_pos (by omega)]
  · rw [dif_neg (by omega), if_neg (by omega), hlen]

/-- A page goes behind the one piece that is prepared. -/
theorem store_page (hp : Prepared server handle done server') (hlt : done.length < 65536) (page : List UInt8) :
    ∃ d, d.handle = handle ∧ d.offset = 0 ∧ d.value = done ∧ d.freed = false ∧
      (∀ d', appendPrepData d page = .ok (d', true) →
        storePrepData server' handle (BitVec.ofNat 16 done.length) page = .ok ([d'], true)) ∧
      (∀ d', appendPrepData d page = .ok (d', false) → ∃ queue,
        storePrepData server' handle (BitVec.ofNat 16 done.length) page = .ok (queue, false)) ∧
      ∀ f, appendPrepData d page = .error f →
        storePrepData server' handle (BitVec.ofNat 16 done.length) page = .error f := by
  have hdone : (BitVec.ofNat 16 done.length).toNat = done.length := by
    rw [BitVec.toNat_ofNat, Nat.mod_eq_of_lt hlt]
  rcases hp.queue with ⟨hempty, rfl⟩ | ⟨d, hqueue, hhandle, hoffset, hvalue, hfreed⟩
  · have hstore : storePrepData server' handle (BitVec.ofNat 16 ([] : List UInt8).length) page =
        (appendPrepData ⟨handle, 0, 0, [], false, isReliableWriteSupported server'.db (handle - 1), rfl⟩ page).map
          fun r => (if r.2 then [r.1] else [], r.2) := by
      rw [storePrepData, hempty]
      simp only [List.getLast?_nil, prepDataNew, hempty, List.nil_append]
      rfl
    refine ⟨⟨handle, 0, 0, [], false, isReliableWriteSupported server'.db (handle - 1), rfl⟩, rfl, rfl, rfl, rfl, ?_⟩
    rw [hstore]
    exact ⟨fun d' h => by rw [h]; rfl, fun d' h => ⟨_, by rw [h]; rfl⟩, fun f h => by rw [h]; rfl⟩
  · have hnext : d.handle = handle ∧
        (BitVec.ofNat 16 done.length).toNat = d.length.toNat + d.offset.toNat := by
      refine ⟨hhandle, ?_⟩
      rw [hdone, d.stored, hvalue, hoffset]
      rfl
    have hstore : storePrepData server' handle (BitVec.ofNat 16 done.length) page =
        (appendPrepData d page).map fun r => ([r.1], r.2) := by
      rw [storePrepData, hqueue]
      simp only [List.getLast?_singleton, if_pos hnext, List.dropLast_singleton, List.nil_append]
    refine ⟨d, hhandle, hoffset, hvalue, hfreed, ?_⟩
    rw [hstore]
    exact ⟨fun d' h => by rw [h]; rfl, fun d' h => ⟨_, by rw [h]; rfl⟩, fun f h => by rw [h]; rfl⟩

/-- The request for a page has place in the queue and asks for an attribute that may be written. -/
theorem handle_page (h : Accepts server handle a) (hp : Prepared server handle done server') (junk : ℕ → UInt8)
    (page : List UInt8) :
    handleRequest junk server' ⟨attOpPrepWriteReq, pagePayload handle done page⟩ =
      match storePrepData server' handle (BitVec.ofNat 16 done.length) page with
      | .error f => (server', .fault f)
      | .ok (queue, ok) => ({ server' with prepQueue := queue },
        if ok then .sent ⟨attOpPrepWriteResp, pagePayload handle done page⟩
        else errorRsp attOpPrepWriteReq handle btAttErrorInsufficientResources) := by
  have hlong : ¬(pagePayload handle done page).length < 4 := by
    simp only [pagePayload, List.length_append, putLe16_length]
    omega
  have hplace : ¬server'.prepQueue.length ≥ server'.maxPrepQueueLen := by
    have hmax : server'.maxPrepQueueLen = server.maxPrepQueueLen := by rw [hp.same]
    have hqueue : server'.prepQueue.length ≤ 1 := by
      rcases hp.queue with ⟨hempty, -⟩ | ⟨d, hone, -⟩
      · rw [hempty]
        exact Nat.zero_le _
      · rw [hone]
        exact Nat.le_refl _
    have := h.place
    omega
  have hfound : gattDbGetAttribute server'.db handle = some a := by
    rw [hp.same]
    exact h.found
  have hallowed : checkPermissions server'.security a writeMask = 0 := by
    rw [hp.same]
    exact h.allowed
  have hhandle : getLe16 (pagePayload handle done page) = handle := by
    rw [pagePayload, List.append_assoc, getLe16_putLe16]
  have hoffset : getLe16 ((pagePayload handle done page).drop 2) = BitVec.ofNat 16 done.length := by
    rw [pagePayload, List.append_assoc, drop_putLe16, List.drop_zero, getLe16_putLe16]
  have hbytes : (pagePayload handle done page).drop 4 = page := by
    rw [pagePayload, List.append_assoc, drop_putLe16, drop_putLe16, List.drop_zero]
  show prepWriteCb server' (pagePayload handle done page) = _
  rw [prepWriteCb, if_neg hlong, if_neg hplace]
  cases hstored : storePrepData server' handle (BitVec.ofNat 16 done.length) page with
  | error f =>
    simp only [hhandle, hoffset, hbytes, hfound, hallowed, hstored, ne_eq, not_true_eq_false, if_false]
  | ok stored =>
    simp only [hhandle, hoffset, hbytes, hfound, hallowed, hstored, ne_eq, not_true_eq_false, if_false]

/-- The server answers with what it was asked as long as all of it fits. -/
theorem page_prepared (h : Accepts server handle a) (hp : Prepared server handle done server')
    (hpage : page ≠ []) (hfits : (done ++ page).length < 65536) (junk : ℕ → UInt8) :
    ∃ server'', serve junk server' ⟨attOpPrepWriteReq, pagePayload handle done page⟩ =
        (server'', some ⟨attOpPrepWriteResp, pagePayload handle done page⟩) ∧
      Prepared server handle (done ++ page) server'' := by
  have hlt : done.length < 65536 := by
    rw [List.length_append] at hfits
    omega
  obtain ⟨d, hh, ho, hvalue, hfreed, hstored, -, -⟩ := store_page hp hlt page
  obtain ⟨d', hd', hh', ho', hv', hf'⟩ := (append_page hvalue hfreed hpage).1 hfits
  refine ⟨{ server' with prepQueue := [d'] }, ?_, by rw [hp.same], .inr ⟨d', rfl, hh'.trans hh, ho'.trans ho, hv', hf'⟩⟩
  rw [serve, handle_page h hp, hstored d' hd']
  rfl

/-- It reports that it has no place at 65536 bytes, and writes behind its buffer at more. -/
theorem page_refused (h : Accepts server handle a) (hp : Prepared server handle done server')
    (hpage : page ≠ []) (hlt : done.length < 65536) (junk : ℕ → UInt8) :
    ((done ++ page).length = 65536 → ∃ server'', server''.db = server.db ∧
      serve junk server' ⟨attOpPrepWriteReq, pagePayload handle done page⟩ =
        (server'', some (encErrorResp attOpPrepWriteReq handle btAttErrorInsufficientResources))) ∧
    (65536 < (done ++ page).length → page.length < 65536 →
      handleRequest junk server' ⟨attOpPrepWriteReq, pagePayload handle done page⟩ =
        (server', .fault (.write done.length))) := by
  obtain ⟨d, -, -, hvalue, hfreed, -, hrefused, hfault⟩ := store_page hp hlt page
  obtain ⟨-, hsum, hover⟩ := append_page hvalue hfreed hpage
  refine ⟨fun hat => ?_, fun hmore hshort => ?_⟩
  · obtain ⟨queue, hqueue⟩ := hrefused _ (hsum hat)
    refine ⟨{ server' with prepQueue := queue }, by rw [hp.same], ?_⟩
    rw [serve, handle_page h hp, hqueue]
    rfl
  · rw [handle_page h hp, hfault _ (hover hmore hlt hshort)]

/-- What is prepared is written as a whole. -/
theorem serve_execute (h : Accepts server handle a) (hp : Prepared server handle value server')
    (hvalue : value ≠ []) (junk : ℕ → UInt8) :
    serve junk server' ⟨attOpExecWriteReq, [1]⟩ =
      (wrote junk server handle value, some ⟨attOpExecWriteResp, []⟩) := by
  obtain ⟨d, hqueue, hhandle, hoffset, hbytes, hfreed⟩ : ∃ d, server'.prepQueue = [d] ∧ d.handle = handle ∧
      d.offset = 0 ∧ d.value = value ∧ d.freed = false := by
    rcases hp.queue with ⟨-, hnil⟩ | hone
    · exact absurd hnil hvalue
    · exact hone
  have hdb : server'.db = server.db := by rw [hp.same]
  have hexec : execNextPrepWrite junk 0 server'.db server'.prepQueue =
      (storeAt junk server.db handle 0 value, [], .sent ⟨attOpExecWriteResp, []⟩) := by
    rw [hqueue, hdb, execNextPrepWrite, hhandle, h.found]
    simp only [hfreed, h.stored, Bool.false_eq_true, if_false, hoffset, hbytes]
    rfl
  have hone : ¬server'.prepQueue.length > 1 := by
    rw [hqueue]
    exact Nat.lt_irrefl 1
  have hhandler : handleRequest junk server' ⟨attOpExecWriteReq, [1]⟩ = execWriteCb junk server' [1] := rfl
  have hflag : ¬(1 : UInt8) = 0 := by decide
  rw [serve, hhandler, execWriteCb]
  simp only [if_neg hflag, if_true, if_neg hone, hexec]
  rw [hp.same, wrote, ← h.empty]

theorem serve_write (h : Stores server handle a) (value : List UInt8) (junk : ℕ → UInt8) :
    serve junk server ⟨attOpWriteReq, putLe16 handle ++ value⟩ =
      (wrote junk server handle value, some ⟨attOpWriteResp, []⟩) := by
  have hlong : ¬(putLe16 handle ++ value).length < 2 := by
    rw [List.length_append, putLe16_length]
    omega
  have hbytes : (putLe16 handle ++ value).drop 2 = value := drop_putLe16 handle value 0
  have hhandler : handleRequest junk server ⟨attOpWriteReq, putLe16 handle ++ value⟩ =
      writeCb junk server attOpWriteReq (putLe16 handle ++ value) := rfl
  have hrequest : attOpWriteReq ≠ attOpWriteCmd := by decide
  rw [serve, hhandler, writeCb]
  simp only [if_neg hlong, getLe16_putLe16, h.found, h.allowed, h.idle, h.stored, hbytes, if_neg hrequest,
    ne_eq, not_true_eq_false, Bool.false_eq_true, if_false, wrote]

/-! The client -/

/-- The client goes on behind the page, or has the server execute what is prepared. -/
theorem client_page (room : ℕ) (handle : BitVec 16) (hlt : (done ++ page).length < 65536)
    (hle : (done ++ page).length ≤ value.length) :
    writeCharCb room (.part ⟨handle, BitVec.ofNat 16 done.length, value⟩)
        ⟨attOpPrepWriteResp, pagePayload handle done page⟩ =
      if (done ++ page).length = value.length then .send .last ⟨attOpExecWriteReq, [1]⟩
      else .send (.part ⟨handle, BitVec.ofNat 16 (done ++ page).length, value⟩)
        (encPrepWriteReq handle (BitVec.ofNat 16 (done ++ page).length)
          (value.drop (done ++ page).length) room) := by
  have hresponse : attOpPrepWriteResp ≠ attOpError := by decide
  have hstatus : statusOf ⟨attOpPrepWriteResp, pagePayload handle done page⟩ = 0 := if_neg hresponse
  have hlen : (⟨attOpPrepWriteResp, pagePayload handle done page⟩ : Pdu).length = 5 + page.length := by
    simp only [Pdu.length, pagePayload, List.length_append, putLe16_length]
    omega
  have hfive : BitVec.ofNat 16 (5 + page.length) = BitVec.ofNat 16 page.length + 5 := by
    rw [Nat.add_comm, BitVec.ofNat_add]
    rfl
  have hnext : BitVec.ofNat 16 done.length + BitVec.ofNat 16 (5 + page.length) - 5 =
      BitVec.ofNat 16 (done ++ page).length := by
    rw [hfive, ← BitVec.add_assoc, BitVec.add_sub_cancel, ← BitVec.ofNat_add, List.length_append]
  have hnat : (BitVec.ofNat 16 (done ++ page).length).toNat = (done ++ page).length := by
    rw [BitVec.toNat_ofNat, Nat.mod_eq_of_lt hlt]
  show prepareWriteCb room _ _ = _
  rw [prepareWriteCb, if_neg (not_not_intro hstatus)]
  simp only [hlen, hnext, hnat]
  by_cases hlast : (done ++ page).length = value.length
  · rw [if_pos hlast, if_pos hlast]
    rfl
  · have hinside : ¬(value.length < (done ++ page).length ∧ room ≠ 5) := fun h => by omega
    rw [if_neg hlast, if_neg hlast, prepareWrite]
    simp only [hnat, if_neg hinside]

/-! The whole write -/

/-- The client and the server while a value is written in parts. -/
def Under (server : BtGattServer) (handle : BitVec 16) (value : List UInt8) (room : ℕ) :
    Writing → BtGattServer → Pdu → Prop
  | .part longWrite, server', req => ∃ done rest, value = done ++ rest ∧ rest ≠ [] ∧ done.length < 65536 ∧
      room - 5 ∣ done.length ∧
      longWrite = ⟨handle, BitVec.ofNat 16 done.length, value⟩ ∧
      req = encPrepWriteReq handle (BitVec.ofNat 16 done.length) rest room ∧
      Prepared server handle done server'
  | .last, server', req => value.length < 65536 ∧ req = ⟨attOpExecWriteReq, [1]⟩ ∧
      Prepared server handle value server'

def left (value : List UInt8) : Writing → ℕ
  | .part longWrite => value.length + 1 - longWrite.offset.toNat
  | .last => 0

/-- The request to prepare a page is not answered: the server writes it behind the buffer. -/
def Overruns (junk : ℕ → UInt8) (handle : BitVec 16) (o : Outcome BtGattServer Written) : Prop :=
  ∃ server' done page, o = .unanswered server' ∧
    handleRequest junk server' ⟨attOpPrepWriteReq, pagePayload handle done page⟩ =
      (server', .fault (.write done.length))

/-- How a write in parts is to end. -/
def Ends (junk : ℕ → UInt8) (server : BtGattServer) (handle : BitVec 16) (value : List UInt8) (room : ℕ) :
    Outcome BtGattServer Written → Prop := fun o =>
  (value.length < 65536 ∧ ∃ r, r.status = 0 ∧ o = .ended (wrote junk server handle value) (.called r)) ∨
  (Wraps room value ∧ ∃ server', server'.db = server.db ∧ o = .ended server'
    (.called (attribCallbackResult (encErrorResp attOpPrepWriteReq handle btAttErrorInsufficientResources)))) ∨
  (65536 < value.length ∧ ¬Wraps room value ∧ Overruns junk handle o)

/-! One page of a value, of which `done` is prepared and `rest` is left -/

theorem page_length (done rest : List UInt8) (room : ℕ) :
    (done ++ rest.take (room - 5)).length = done.length + min (room - 5) rest.length := by
  rw [List.length_append, List.length_take]

theorem page_nonempty (hroom : 5 < room) (hrest : rest ≠ []) : rest.take (room - 5) ≠ [] := by
  rw [← List.length_pos_iff, List.length_take]
  have := List.length_pos_iff.mpr hrest
  omega

/-- The server has prepared the page, and the client goes on or has it executed. -/
theorem fitting_step (h : Accepts server handle a) (hp : Prepared server handle done server')
    (hsplit : value = done ++ rest) (hrest : rest ≠ []) (hroom : 5 < room) (hlt : done.length < 65536)
    (hpages : room - 5 ∣ done.length) (hfits : (done ++ rest.take (room - 5)).length < 65536) (junk : ℕ → UInt8) :
    ∃ t' resp s' req',
      serve junk server' ⟨attOpPrepWriteReq, pagePayload handle done (rest.take (room - 5))⟩ = (t', some resp) ∧
      writeCharCb room (.part ⟨handle, BitVec.ofNat 16 done.length, value⟩) resp = .send s' req' ∧
      Under server handle value room s' t' req' ∧
      left value s' < left value (.part ⟨handle, BitVec.ofNat 16 done.length, value⟩) := by
  obtain ⟨server'', hs, hp'⟩ := page_prepared h hp (page_nonempty hroom hrest) hfits junk
  have hall : value.length = done.length + rest.length := by rw [hsplit, List.length_append]
  have hpos := List.length_pos_iff.mpr hrest
  have hsum := page_length done rest room
  have hdone : (BitVec.ofNat 16 done.length).toNat = done.length := by
    rw [BitVec.toNat_ofNat, Nat.mod_eq_of_lt hlt]
  have hle : (done ++ rest.take (room - 5)).length ≤ value.length := by omega
  have hclient := client_page room handle hfits hle
  by_cases hlast : (done ++ rest.take (room - 5)).length = value.length
  · rw [if_pos hlast] at hclient
    have hvalue : done ++ rest.take (room - 5) = value := by
      rw [List.take_of_length_le (by omega), ← hsplit]
    refine ⟨server'', _, _, _, hs, hclient, ⟨?_, rfl, hvalue ▸ hp'⟩, ?_⟩
    · rw [← hlast]
      exact hfits
    · show 0 < value.length + 1 - (BitVec.ofNat 16 done.length).toNat
      omega
  · rw [if_neg hlast] at hclient
    have hfull : (done ++ rest.take (room - 5)).length = done.length + (room - 5) := by omega
    have hsplit' : value = (done ++ rest.take (room - 5)) ++ rest.drop (room - 5) := by
      rw [List.append_assoc, List.take_append_drop, ← hsplit]
    have hrest' : rest.drop (room - 5) ≠ [] := fun hnil =>
      hlast (by rw [hsplit', hnil, List.append_nil])
    have hdrop : value.drop (done ++ rest.take (room - 5)).length = rest.drop (room - 5) := by
      rw [hsplit', List.drop_left]
    have hpages' : room - 5 ∣ (done ++ rest.take (room - 5)).length := by
      rw [hfull]
      exact (Nat.dvd_add_right hpages).mpr (Nat.dvd_refl _)
    have hnat : (BitVec.ofNat 16 (done ++ rest.take (room - 5)).length).toNat =
        (done ++ rest.take (room - 5)).length := by
      rw [BitVec.toNat_ofNat, Nat.mod_eq_of_lt hfits]
    refine ⟨server'', _, _, _, hs, hclient,
      ⟨_, _, hsplit', hrest', hfits, hpages', rfl, by rw [hdrop], hp'⟩, ?_⟩
    show value.length + 1 - (BitVec.ofNat 16 (done ++ rest.take (room - 5)).length).toNat <
      value.length + 1 - (BitVec.ofNat 16 done.length).toNat
    omega

/-- The page that comes to 65536 bytes is the last one, or as long as all before it. -/
theorem wraps_at (hsplit : value = done ++ rest) (hpages : room - 5 ∣ done.length)
    (hat : (done ++ rest.take (room - 5)).length = 65536) : Wraps room value := by
  have hall : value.length = done.length + rest.length := by rw [hsplit, List.length_append]
  have hsum := page_length done rest room
  by_cases hlast : rest.length ≤ room - 5
  · exact .inl (by omega)
  · have hfull : 65536 = done.length + (room - 5) := by omega
    exact .inr ⟨by omega, hfull ▸ (Nat.dvd_add_right hpages).mpr (Nat.dvd_refl _)⟩

/-- If whole pages came to 65536 bytes, one more would have place up to there. -/
theorem wraps_beyond (hsplit : value = done ++ rest) (hlt : done.length < 65536)
    (hpages : room - 5 ∣ done.length) (hmore : 65536 < (done ++ rest.take (room - 5)).length) :
    65536 < value.length ∧ ¬Wraps room value := by
  have hall : value.length = done.length + rest.length := by rw [hsplit, List.length_append]
  have hsum := page_length done rest room
  refine ⟨by omega, ?_⟩
  rintro (hat | ⟨-, hdvd⟩)
  · omega
  · have hgap : room - 5 ∣ 65536 - done.length := Nat.dvd_sub hdvd hpages
    have := Nat.le_of_dvd (by omega) hgap
    omega

theorem under_step (h : Accepts server handle a) (hroom : 5 < room) (hshort : room < 65536) (hvalue : value ≠ [])
    (junk : ℕ → UInt8) (s : Writing) (t : BtGattServer) (req : Pdu) (hu : Under server handle value room s t req) :
    (∀ n, Ends junk server handle value room (converse (writeCharCb room) (serve junk) (n + 1) t (.send s req))) ∨
      ∃ t' resp s' req', serve junk t req = (t', some resp) ∧ writeCharCb room s resp = .send s' req' ∧
        Under server handle value room s' t' req' ∧ left value s' < left value s := by
  cases s with
  | last =>
    obtain ⟨hlt, rfl, hp⟩ := hu
    refine .inl fun n => .inl ⟨hlt, attribCallbackResult ⟨attOpExecWriteResp, []⟩, rfl, ?_⟩
    rw [converse_answered (serve_execute h hp hvalue junk), writeCharCb, converse_stop]
  | part longWrite =>
    obtain ⟨done, rest, hsplit, hrest, hlt, hpages, rfl, rfl, hp⟩ := hu
    have hreq : encPrepWriteReq handle (BitVec.ofNat 16 done.length) rest room =
        ⟨attOpPrepWriteReq, pagePayload handle done (rest.take (room - 5))⟩ := by
      show (⟨attOpPrepWriteReq, putLe16 handle ++ putLe16 _ ++ clipped room 5 rest⟩ : Pdu) = _
      rw [clipped, if_pos (Nat.le_of_lt hroom)]
      rfl
    obtain ⟨hrefused, hover⟩ := page_refused h hp (page_nonempty hroom hrest) hlt junk
    rw [hreq]
    rcases Nat.lt_trichotomy (done ++ rest.take (room - 5)).length 65536 with hfits | hat | hmore
    · exact .inr (fitting_step h hp hsplit hrest hroom hlt hpages hfits junk)
    · obtain ⟨server'', hdb, hs⟩ := hrefused hat
      refine .inl fun n => .inr (.inl ⟨wraps_at hsplit hpages hat, server'', hdb, ?_⟩)
      have hstatus : statusOf (encErrorResp attOpPrepWriteReq handle btAttErrorInsufficientResources) ≠ 0 :=
        show btAttErrorInsufficientResources ≠ 0 by decide
      rw [converse_answered hs, writeCharCb, prepareWriteCb, if_pos hstatus, converse_stop]
    · have hfault := hover hmore (by rw [List.length_take]; omega)
      obtain ⟨hlong, hwraps⟩ := wraps_beyond hsplit hlt hpages hmore
      have hnone : serve junk t ⟨attOpPrepWriteReq, pagePayload handle done (rest.take (room - 5))⟩ =
          (t, none) := by rw [serve, hfault]
      refine .inl fun n => .inr (.inr ⟨hlong, hwraps, t, done, _, ?_, hfault⟩)
      rw [converse, hnone]

/-- A write ends as it should, whatever the size of the value. -/
theorem write_ends (h : Accepts server handle a) (hmtu : 5 < server.attMtu.toNat) (junk : ℕ → UInt8)
    (value : List UInt8) (hn : value.length + 1 < n) :
    Ends junk server handle value server.attMtu.toNat (converse (writeCharCb server.attMtu.toNat) (serve junk) n
      server (gattWriteChar server.attMtu.toNat handle value)) := by
  have hlt := server.attMtu.isLt
  by_cases hshort : value.length ≤ server.attMtu.toNat - 3
  · refine .inl ⟨by omega, attribCallbackResult ⟨attOpWriteResp, []⟩, rfl, ?_⟩
    obtain ⟨k, rfl⟩ : ∃ k, n = k + 1 := ⟨n - 1, by omega⟩
    have hrequest : encWriteReq handle value server.attMtu.toNat = ⟨attOpWriteReq, putLe16 handle ++ value⟩ := by
      show (⟨attOpWriteReq, putLe16 handle ++ clipped server.attMtu.toNat 3 value⟩ : Pdu) = _
      rw [clipped_fits (by omega) hshort]
    rw [gattWriteChar, if_pos (.inr hshort), hrequest, converse_answered (serve_write h.toStores value junk),
      writeCharCb, converse_stop]
  · have hparts : gattWriteChar server.attMtu.toNat handle value =
        .send (.part ⟨handle, 0, value⟩) (encPrepWriteReq handle 0 value server.attMtu.toNat) := by
      have hzero : ¬(value.length < BitVec.toNat (0 : BitVec 16) ∧ server.attMtu.toNat ≠ 5) := fun h =>
        Nat.not_lt_zero _ h.1
      rw [gattWriteChar, if_neg (not_or.mpr ⟨by omega, hshort⟩), prepareWrite]
      exact if_neg hzero
    have hvalue : value ≠ [] := fun hnil => hshort (by rw [hnil]; exact Nat.zero_le _)
    have hunder : Under server handle value server.attMtu.toNat (.part ⟨handle, 0, value⟩) server
        (encPrepWriteReq handle 0 value server.attMtu.toNat) :=
      ⟨[], value, rfl, hvalue, by decide, Nat.dvd_zero _, rfl, rfl, rfl, .inl ⟨h.empty, rfl⟩⟩
    rw [hparts]
    exact converse_leads (left value) (Under server handle value server.attMtu.toNat)
      (Ends junk server handle value server.attMtu.toNat) (under_step h hmtu hlt hvalue junk) hunder hn

/-- Writing a value of less than 65536 bytes ends well. The attribute then has the value, and behind it
what its own one had more, no other attribute has changed, and a client that may read the attribute
gets just that. -/
theorem value_written (junk : ℕ → UInt8) (server : BtGattServer) (handle : BitVec 16) (a : GattDbAttribute)
    (h : Accepts server handle a) (hmtu : 5 < server.attMtu.toNat) (value : List UInt8)
    (hlt : value.length < 65536) (n : ℕ) (hn : value.length + 1 < n) :
    ∃ server' r, converse (writeCharCb server.attMtu.toNat) (serve junk) n server
        (gattWriteChar server.attMtu.toNat handle value) = .ended server' (.called r) ∧ r.status = 0 ∧
      (∃ a', gattDbGetAttribute server'.db handle = some a' ∧
        storedValue a' = value ++ (storedValue a).drop value.length) ∧
      (∀ other, other ≠ handle →
        gattDbGetAttribute server'.db other = gattDbGetAttribute server.db other) ∧
      (Readable server handle a → ∃ m, converse (readCharCb server.attMtu.toNat) (serve junk) m server'
        (gattReadChar handle) =
          .ended server' (valueRead (value ++ (storedValue a).drop value.length))) := by
  obtain ⟨r, hr, hends⟩ : ∃ r, r.status = 0 ∧ converse (writeCharCb server.attMtu.toNat) (serve junk) n server
      (gattWriteChar server.attMtu.toNat handle value) = .ended (wrote junk server handle value) (.called r) := by
    rcases write_ends h hmtu junk value hn with ⟨-, hwritten⟩ | ⟨hat | hmore, -⟩ | ⟨hmore, -⟩
    · exact hwritten
    · omega
    · exact absurd hmore.1 (by omega)
    · omega
  have hfound := wrote_found h.found junk value
  have hvalue := storeValue_front junk a hlt
  refine ⟨wrote junk server handle value, r, hends, hr, ⟨_, hfound, hvalue⟩,
    fun other hne => wrote_other junk hne, fun hread => ⟨(storedValue (storeValue junk a 0 value)).length + 1, ?_⟩⟩
  obtain ⟨hfunc, hperm⟩ := storeValue_kept junk a value
  have hreadable : Readable (wrote junk server handle value) handle (storeValue junk a 0 value) := by
    refine ⟨hfound, hfunc.trans hread.stored, ?_, hread.idle⟩
    have hallowed := hread.allowed
    rw [checkPermissions] at hallowed ⊢
    rw [hperm]
    exact hallowed
  rw [← hvalue]
  exact read_ends hreadable (show 2 ≤ server.attMtu.toNat by omega) junk (Nat.lt_succ_self _)

theorem value_written_level : ∃ server' r, converse (writeCharCb 23) (serve fun _ => 0) 43 longServer
      (gattWriteChar 23 3 (List.replicate 40 9)) = .ended server' (.called r) ∧ r.status = 0 ∧
    (∃ a', gattDbGetAttribute server'.db 3 = some a' ∧
      storedValue a' = List.replicate 40 9 ++ (storedValue longLevel).drop (List.replicate 40 (9 : UInt8)).length) ∧
    (∀ other, other ≠ 3 →
      gattDbGetAttribute server'.db other = gattDbGetAttribute longServer.db other) ∧
    (Readable longServer 3 longLevel → ∃ m, converse (readCharCb 23) (serve fun _ => 0) m server'
      (gattReadChar 3) = .ended server' (valueRead (List.replicate 40 9 ++
        (storedValue longLevel).drop (List.replicate 40 (9 : UInt8)).length))) :=
  value_written (fun _ => 0) longServer 3 longLevel ⟨⟨by decide, rfl, by decide, rfl⟩, rfl, by decide⟩
    (by decide) (List.replicate 40 9) (by decide) 43 (by decide)

end

end Gattlib.LongWrites
