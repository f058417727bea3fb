import Gattlib.DatabaseLayout
import Gattlib.GattServer
import Gattlib.GattValues

namespace Gattlib.LongReads

open AttPdus GattDatabase GattServer GattDiscovery GattValues DatabaseLayout Library.Dialogue

/-- The bytes of an attribute that count as its value. -/
def storedValue (a : GattDbAttribute) : List UInt8 := a.value.take a.valueLen.toNat

/-- The server lets the client read the value of an attribute, and has it. -/
structure Readable (server : BtGattServer) (handle : BitVec 16) (a : GattDbAttribute) : Prop where
  found : gattDbGetAttribute server.db handle = some a
  stored : a.readFunc = false
  allowed : checkPermissions server.security a readMask = 0
  idle : server.pendingReadOp = false

section

variable {server : BtGattServer} {handle : BitVec 16} {a : GattDbAttribute} {junk : ℕ → UInt8}
  {done rest : List UInt8} {room n : ℕ}

theorem storedValue_length (a : GattDbAttribute) : (storedValue a).length = a.valueLen.toNat := by
  rw [storedValue, List.length_take]
  exact Nat.min_eq_left a.allocated

theorem storedValue_lt (a : GattDbAttribute) : (storedValue a).length < 65536 := by
  rw [storedValue_length]
  exact a.valueLen.isLt

/-- The part of the value that the server sends from an offset on. -/
theorem attributeRead_part (h : Readable server handle a) (hvalue : storedValue a = done ++ rest) :
    gattDbAttributeRead a (BitVec.ofNat 16 done.length) = .value rest := by
  have hlen : done.length ≤ a.valueLen.toNat := by
    rw [← storedValue_length, hvalue, List.length_append]
    exact Nat.le_add_right _ _
  have hlt := a.valueLen.isLt
  have hoffset : (BitVec.ofNat 16 done.length).toNat = done.length := by
    rw [BitVec.toNat_ofNat, Nat.mod_eq_of_lt (by omega)]
  have hinside : ¬BitVec.ofNat 16 done.length > a.valueLen := by
    show ¬a.valueLen.toNat < (BitVec.ofNat 16 done.length).toNat
    omega
  rw [gattDbAttributeRead, if_neg (by simp [h.stored]), if_neg hinside, hoffset]
  show ReadAnswer.value ((storedValue a).drop done.length) = _
  rw [hvalue, List.drop_left]

/-- The request for the rest of the value, once the client has some bytes of it. -/
def partRequest (handle : BitVec 16) (done : List UInt8) : Pdu :=
  if done = [] then encReadReq handle
  else encReadBlobReq handle (BitVec.ofNat 16 (done.length + 1) - 1)

def partResponse (done page : List UInt8) : Pdu :=
  ⟨if done = [] then attOpReadResp else attOpReadBlobResp, page⟩

/-- The client when it has some bytes of the value. -/
def collected (handle : BitVec 16) (done : List UInt8) : ReadLongData :=
  if done = [] then ⟨handle, none, 0⟩
  else ⟨handle, some (attOpReadResp :: done), BitVec.ofNat 16 (done.length + 1)⟩

/-- What the user's callback gets. -/
def valueRead (value : List UInt8) : GAttribResult :=
  ⟨0, attOpReadResp :: value, BitVec.ofNat 16 (value.length + 1)⟩

theorem serve_part (h : Readable server handle a) (hvalue : storedValue a = done ++ rest)
    (junk : ℕ → UInt8) : serve junk server (partRequest handle done) =
      (server, some (partResponse done (rest.take (server.attMtu.toNat - 1)))) := by
  have hread := attributeRead_part h hvalue
  by_cases hfirst : done = []
  · subst hfirst
    have hlen : (putLe16 handle).length = 2 := putLe16_length handle
    have hoffset : BitVec.ofNat 16 ([] : List UInt8).length = 0 := rfl
    rw [hoffset] at hread
    show serve junk server ⟨attOpReadReq, putLe16 handle⟩ = _
    have hhandler : handleRequest junk server ⟨attOpReadReq, putLe16 handle⟩ =
        readCb server (putLe16 handle) := rfl
    simp only [serve, hhandler, readCb, hlen, ne_eq, not_true_eq_false, if_false, getLe16_alone,
      handleReadReq, h.found, h.allowed, h.idle, hread, Bool.false_eq_true]
    rfl
  · have hlen : (putLe16 handle ++ putLe16 (BitVec.ofNat 16 (done.length + 1) - 1)).length = 4 := by
      rw [List.length_append, putLe16_length, putLe16_length]
    have hoffset : BitVec.ofNat 16 (done.length + 1) - 1 = BitVec.ofNat 16 done.length := by
      rw [BitVec.ofNat_add]
      exact BitVec.add_sub_cancel _ _
    have hbytes : getLe16 ((putLe16 handle ++ putLe16 (BitVec.ofNat 16 (done.length + 1) - 1)).drop 2) =
        BitVec.ofNat 16 done.length := by
      rw [drop_putLe16, List.drop_zero, getLe16_alone, hoffset]
    have hhandler : ∀ payload, handleRequest junk server ⟨attOpReadBlobReq, payload⟩ =
        readBlobCb server payload := fun _ => rfl
    simp only [partRequest, if_neg hfirst, encReadBlobReq, serve, hhandler, readBlobCb, hlen, ne_eq,
      not_true_eq_false, if_false, getLe16_putLe16, hbytes, handleReadReq, h.found, h.allowed, h.idle,
      hread, Bool.false_eq_true, partResponse]
    rfl

theorem partResponse_status (done page : List UInt8) : statusOf (partResponse done page) = 0 := by
  by_cases hfirst : done = [] <;> simp [statusOf, partResponse, hfirst, attOpReadResp, attOpReadBlobResp,
    attOpError]

/-- The response that has the rest of the value is shorter than the buffer. -/
theorem part_short (hroom : 2 ≤ room) :
    (rest.take (room - 1)).length + 1 < room ↔ rest.length < room - 1 := by
  rw [List.length_take]
  omega

theorem client_first (hroom : 2 ≤ room) :
    readCharCb room (collected handle []) (partResponse [] (rest.take (room - 1))) =
      if rest.length < room - 1 then .stop (valueRead rest)
      else .send (collected handle (rest.take (room - 1))) (partRequest handle (rest.take (room - 1))) := by
  have hstatus := partResponse_status [] (rest.take (room - 1))
  show readCharHelper room ⟨handle, none, 0⟩ _ = _
  rw [readCharHelper, hstatus]
  by_cases hlast : rest.length < room - 1
  · have hshort : (partResponse [] (rest.take (room - 1))).length < room := (part_short hroom).mpr hlast
    rw [if_pos (.inr hshort), if_pos hlast, attribCallbackResult, hstatus, Pdu.length, partResponse,
      List.take_of_length_le (Nat.le_of_lt hlast)]
    rfl
  · have hfull : ¬(partResponse [] (rest.take (room - 1))).length < room :=
      fun h => hlast ((part_short hroom).mp h)
    have hne : rest.take (room - 1) ≠ [] := by
      rw [← List.length_pos_iff, List.length_take]
      omega
    rw [if_neg (not_or.mpr ⟨not_not_intro rfl, hfull⟩), if_neg hlast, collected, if_neg hne, partRequest,
      if_neg hne]
    rfl

theorem client_more (hdone : done ≠ []) (hlt : (done ++ rest).length < 65536) (hroom : 2 ≤ room) :
    readCharCb room (collected handle done) (partResponse done (rest.take (room - 1))) =
      if rest.length < room - 1 then .stop (valueRead (done ++ rest))
      else .send (collected handle (done ++ rest.take (room - 1)))
        (partRequest handle (done ++ rest.take (room - 1))) := by
  have hstatus := partResponse_status done (rest.take (room - 1))
  have hcollected : collected handle done =
      ⟨handle, some (attOpReadResp :: done), BitVec.ofNat 16 (done.length + 1)⟩ := if_neg hdone
  rw [hcollected]
  show readBlobHelper room _ _ _ = _
  rw [readBlobHelper, hstatus]
  cases rest with
  | nil =>
    have hempty : (partResponse done (([] : List UInt8).take (room - 1))).length = 1 := by
      rw [List.take_nil]
      rfl
    have hlast : ([] : List UInt8).length < room - 1 := by
      rw [List.length_nil]
      omega
    rw [if_pos (.inr hempty), if_pos hlast, List.append_nil]
    rfl
  | cons b rest =>
    have hpage : (b :: rest).take (room - 1) ≠ [] := by
      rw [← List.length_pos_iff, List.length_take, List.length_cons]
      omega
    have hmore : (partResponse done ((b :: rest).take (room - 1))).length ≠ 1 := fun h =>
      hpage (List.eq_nil_of_length_eq_zero (Nat.succ.inj h))
    have hsize : (BitVec.ofNat 16 (done.length + 1)).toNat = (attOpReadResp :: done).length := by
      rw [List.length_append, List.length_cons] at hlt
      rw [BitVec.toNat_ofNat, Nat.mod_eq_of_lt (by omega)]
      rfl
    have hsum : BitVec.ofNat 16 (done.length + 1) + BitVec.ofNat 16 ((b :: rest).take (room - 1)).length =
        BitVec.ofNat 16 ((done ++ (b :: rest).take (room - 1)).length + 1) := by
      rw [← BitVec.ofNat_add, List.length_append]
      congr 1
      omega
    rw [if_neg (not_or.mpr ⟨not_not_intro rfl, hmore⟩)]
    simp only [hsize, List.take_length, partResponse]
    by_cases hlast : (b :: rest).length < room - 1
    · have hshort := (part_short hroom).mpr hlast
      rw [if_pos hlast]
      simp only [Pdu.length, if_pos hshort, hsum]
      rw [List.take_of_length_le (Nat.le_of_lt hlast)]
      rfl
    · have hfull := fun h => hlast ((part_short hroom).mp h)
      have hne : done ++ (b :: rest).take (room - 1) ≠ [] := by simp [hdone]
      rw [if_neg hlast]
      simp only [Pdu.length, if_neg hfull, hsum, collected, if_neg hne, partRequest]
      rfl

/-- The client goes on as long as the responses are full. -/
theorem client_part (hlt : (done ++ rest).length < 65536) (hroom : 2 ≤ room) :
    readCharCb room (collected handle done) (partResponse done (rest.take (room - 1))) =
      if rest.length < room - 1 then .stop (valueRead (done ++ rest))
      else .send (collected handle (done ++ rest.take (room - 1)))
        (partRequest handle (done ++ rest.take (room - 1))) := by
  by_cases hdone : done = []
  · subst hdone
    exact client_first hroom
  · exact client_more hdone hlt hroom

theorem read_ends (h : Readable server handle a) (hmtu : 2 ≤ server.attMtu.toNat) (junk : ℕ → UInt8)
    (hn : (storedValue a).length < n) :
    converse (readCharCb server.attMtu.toNat) (serve junk) n server (gattReadChar handle) =
      .ended server (valueRead (storedValue a)) := by
  have hstart : gattReadChar handle = .send (collected handle []) (partRequest handle []) := rfl
  rw [hstart]
  refine pages_complete (fun done rest hvalue (_ : True) => ⟨_, serve_part h hvalue junk, ?_⟩)
    (List.nil_append _).symm trivial hn
  rw [client_part (by rw [← hvalue]; exact storedValue_lt a) hmtu]
  by_cases hlast : rest.length < server.attMtu.toNat - 1
  · rw [if_pos hlast, ← hvalue]
    cases rest with
    | nil => exact .inl ⟨rfl, rfl⟩
    | cons b rest => exact .inr ⟨b :: rest, [], by simp, by simp, .inl ⟨rfl, rfl⟩⟩
  · rw [if_neg hlast]
    refine .inr ⟨_, rest.drop (server.attMtu.toNat - 1), ?_, (List.take_append_drop _ _).symm,
      .inr ⟨trivial, rfl⟩⟩
    rw [← List.length_pos_iff, List.length_take]
    omega

/-- Reading a value that the server has ends, after one request more than there are bytes at most, with
the whole value. The number of its bytes is told as well, unless it is the largest there is. -/
theorem long_value_read (junk : ℕ → UInt8) (server : BtGattServer) (handle : BitVec 16)
    (a : GattDbAttribute) (h : Readable server handle a) (hmtu : 2 ≤ server.attMtu.toNat) (n : ℕ)
    (hn : (storedValue a).length < n) :
    converse (readCharCb server.attMtu.toNat) (serve junk) n server (gattReadChar handle) =
        .ended server (valueRead (storedValue a)) ∧
      ((valueRead (storedValue a)).len.toNat = (valueRead (storedValue a)).pdu.length ↔
        (storedValue a).length ≠ 65535) := by
  refine ⟨read_ends h hmtu junk hn, ?_⟩
  have hlt := storedValue_lt a
  simp only [valueRead, BitVec.toNat_ofNat, List.length_cons]
  omega

/-- The battery's level with a value of thirty bytes. -/
def longLevel : GattDbAttribute where
  handle := 3
  uuid := .u16 0x2A19
  permissions := 0
  value := List.replicate 30 7
  valueLen := 30
  readFunc := false
  writeFunc := false
  allocated := Nat.le_refl 30

def longServer : BtGattServer :=
  btGattServerNew (storeAt (fun _ => 0) batteryDb 3 0 (List.replicate 30 7)) 23 23 1

theorem long_value_read_level :
    converse (readCharCb 23) (serve fun _ => 0) 31 longServer (gattReadChar 3) =
        .ended longServer (valueRead (List.replicate 30 7)) ∧
      ((valueRead (List.replicate 30 7)).len.toNat = (valueRead (List.replicate 30 7)).pdu.length ↔
        (List.replicate 30 (7 : UInt8)).length ≠ 65535) :=
  long_value_read (fun _ => 0) longServer 3 longLevel ⟨by decide, rfl, by decide, rfl⟩ (by decide) 31
    (by decide)

/-! Other peers -/

/-- Once the buffer is there, it stays, and no status but 0 is told. -/
theorem readBlob_next {longRead : ReadLongData} (h : longRead.buffer.isSome) (p : Pdu) :
    (∀ r, readCharCb room longRead p = .stop r → r.status = 0) ∧
      ∀ longRead' req, readCharCb room longRead p = .send longRead' req → longRead'.buffer.isSome := by
  obtain ⟨buffer, hbuffer⟩ := Option.isSome_iff_exists.mp h
  simp only [readCharCb, hbuffer, readBlobHelper]
  split
  · refine ⟨fun r hr => ?_, fun _ _ hr => ?_⟩ <;> cases hr
    rfl
  · split
    · refine ⟨fun r hr => ?_, fun _ _ hr => ?_⟩ <;> cases hr
      rfl
    · refine ⟨fun r hr => ?_, fun _ _ hr => ?_⟩ <;> cases hr
      rfl

/-- The status is that of the first answer, whatever the peer answers then: an error in the middle of a
value is taken for its end. -/
theorem read_status {τ : Type} (peer : τ → Pdu → τ × Option Pdu) (room n : ℕ) (handle : BitVec 16)
    (t t' : τ) (result : GAttribResult)
    (h : converse (readCharCb room) peer n t (gattReadChar handle) = .ended t' result) :
    ∃ p, (peer t (encReadReq handle)).2 = some p ∧ result.status = statusOf p := by
  cases n with
  | zero => cases h
  | succ n =>
    rw [gattReadChar, converse] at h
    split at h
    · cases h
    · rename_i t₁ p hp
      refine ⟨p, by rw [hp], ?_⟩
      show result.status = statusOf p
      by_cases hfirst : statusOf p ≠ 0 ∨ p.length < room
      · have hstop : readCharCb room ⟨handle, none, 0⟩ p = .stop (attribCallbackResult p) := if_pos hfirst
        rw [hstop, converse_stop] at h
        cases h
        rfl
      · have hzero : statusOf p = 0 := not_not.mp (not_or.mp hfirst).1
        have hsend : readCharCb room ⟨handle, none, 0⟩ p = .send _ _ := if_neg hfirst
        rw [hsend] at h
        rw [hzero]
        exact converse_result (fun s p r hs => (readBlob_next hs p).1 r)
          (fun s p s' req hs => (readBlob_next hs p).2 s' req) rfl h

/-- A peer that fails behind the first part of a value. -/
def cutPeer (cut : Bool) (_ : Pdu) : Bool × Option Pdu :=
  (true, some (if cut then encErrorResp attOpReadBlobReq 3 attEcodeIo else ⟨attOpReadResp, List.replicate 22 7⟩))

theorem read_status_cut : ∃ p, (cutPeer false (encReadReq 3)).2 = some p ∧
    (⟨0, attOpReadResp :: List.replicate 22 7, 23⟩ : GAttribResult).status = statusOf p :=
  read_status cutPeer 23 2 3 false true _ rfl

end

end Gattlib.LongReads
