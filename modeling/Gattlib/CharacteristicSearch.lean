import Gattlib.DatabaseQueries
import Gattlib.GattDiscovery
import Gattlib.GattServer
import Gattlib.PduRoundTrips
import Mathlib.Data.List.TakeWhile

namespace Gattlib.CharacteristicSearch

open Uuids (BtUuid btUuidToUuid128)
open UuidText (maxLenUuidStr)
open AttPdus GattDatabase GattServer GattDiscovery ServiceOrder DatabaseLayout DatabaseQueries PduRoundTrips
open Library.Dialogue Library.Records Library.Spans Library.Transition

/-- The UUID in the declaration of a characteristic. -/
def charUuid (a : GattDbAttribute) : BtUuid := (getUuidLe (a.value.drop 3)).getD .unspec

/-- What the client is to find of a declaration. -/
def charFound (a : GattDbAttribute) : GattChar :=
  ⟨btUuidToString (charUuid a) (maxLenUuidStr + 1), a.handle, a.value.headD 0, getLe16 (a.value.drop 1)⟩

/-- The entry of an attribute in a response. -/
def typeUnit (a : GattDbAttribute) : List UInt8 := putLe16 a.handle ++ a.value

section

variable {db : GattDb} {a : GattDbAttribute} {q : List GattDbAttribute} {start end_ : BitVec 16}
  {mtu size : ℕ} {pdu : List UInt8} {junk : ℕ → UInt8} {server : BtGattServer} {security : Int}

theorem declares_size (h : Declares a) : a.value.length = 5 ∨ a.value.length = 19 := by
  obtain ⟨properties, uuid, data, hvalue, huuid⟩ := h.shape
  have hdata := putUuidLe_length (putUuidLe_getUuidLe huuid)
  rw [hvalue, List.length_append, List.length_cons, putLe16_length]
  omega

theorem check_open (h : a.permissions = 0) (mask : BitVec 32) : checkPermissions security a mask = 0 := by
  simp [checkPermissions, h]

/-! What the server puts into a response -/

theorem process_more (h : ∀ a ∈ q, Declares a) (hpdu : pdu ≠ []) :
    processReadByType security mtu pdu size q = .sent (pdu ++ (fitting (size + 2) (mtu - 1) pdu.length
      ((q.takeWhile fun a => a.value.length == size).map typeUnit)).flatten) := by
  induction q generalizing pdu with
  | nil => simp [processReadByType, fitting]
  | cons a q ih =>
    have ha := h a (by simp)
    have hcheck : ¬checkPermissions security a readMask ≠ 0 := not_not_intro (check_open ha.open_ readMask)
    rw [processReadByType]
    simp only [if_neg hcheck, attributeRead_held ha.toHeld, hpdu, ne_eq, not_false_eq_true, true_and, if_false]
    by_cases hsame : a.value.length = size
    · have htake : (a :: q).takeWhile (fun a => a.value.length == size) =
          a :: q.takeWhile fun a => a.value.length == size := by
        rw [List.takeWhile_cons, if_pos (by simp [hsame])]
      have hunit : a.value.take size = a.value := by rw [← hsame, List.take_length]
      have hlen : (pdu ++ putLe16 a.handle ++ a.value).length = pdu.length + (size + 2) := by
        simp only [List.length_append, putLe16_length, hsame]
        omega
      rw [if_neg (not_not_intro hsame), htake, List.map_cons, fitting]
      by_cases hfit : pdu.length + (size + 2) ≤ mtu - 1
      · rw [if_neg (by omega), if_pos hfit, hunit, hlen]
        by_cases hfull : pdu.length + (size + 2) = mtu - 1
        · -- the rest would not fit either
          have hnone : fitting (size + 2) (mtu - 1) (pdu.length + (size + 2))
              ((q.takeWhile fun a => a.value.length == size).map typeUnit) = [] := by
            rw [fitting_take (by omega) hfit, hfull, Nat.sub_self, Nat.zero_div, List.take_zero]
          rw [if_pos hfull, hnone]
          simp [typeUnit]
        · rw [if_neg hfull, ih (fun b hb => h b (by simp [hb])) (by simp [hpdu]), hlen]
          simp [typeUnit]
      · rw [if_pos (by omega), if_neg hfit]
        simp
    · rw [if_pos hsame, List.takeWhile_cons, if_neg (by simp [hsame])]
      simp [fitting]

/-- The attributes that go into one response. -/
def typePage (mtu size : ℕ) (q : List GattDbAttribute) : List GattDbAttribute :=
  (q.takeWhile fun a => a.value.length == size).take ((mtu - 1 - 1) / (size + 2))

theorem process_all (h : ∀ b ∈ a :: q, Declares b) (hmtu : 23 ≤ mtu) :
    processReadByType security mtu [] 0 (a :: q) = .sent (UInt8.ofNat (a.value.length + 2) ::
      ((typePage mtu a.value.length (a :: q)).map typeUnit).flatten) := by
  have ha := h a (by simp)
  have hsize := declares_size ha
  have hmin : min (min (mtu - 4) 253) a.value.length = a.value.length := by omega
  have hcheck : ¬checkPermissions security a readMask ≠ 0 := not_not_intro (check_open ha.open_ readMask)
  have hfirst : processReadByType security mtu [] 0 (a :: q) =
      processReadByType security mtu [UInt8.ofNat (a.value.length + 2)] a.value.length (a :: q) := by
    rw [processReadByType, processReadByType]
    simp only [if_neg hcheck, attributeRead_held ha.toHeld, hmin, ne_eq, not_true_eq_false, false_and,
      and_false, if_false, if_true, reduceCtorEq]
  rw [hfirst, process_more h (by simp), fitting_take (by omega) (by simp; omega), ← List.map_take]
  rfl

/-- The response with the entries of some declarations. -/
def typeResponse (size : ℕ) (page : List GattDbAttribute) : Pdu :=
  ⟨attOpReadByTypeResp, UInt8.ofNat (size + 2) :: (page.map typeUnit).flatten⟩

def charRequest (start end_ : BitVec 16) : Pdu :=
  ⟨attOpReadByTypeReq, putLe16 start ++ putLe16 end_ ++ putLe16 0x2803⟩

theorem serve_chars (hstart : start ≠ 0) (hle : start.toNat ≤ end_.toNat) (hidle : server.pendingReadOp = false)
    (junk : ℕ → UInt8) :
    serve junk server (charRequest start end_) =
      match gattDbReadByType server.db start end_ characteristicUuid with
      | [] => (server, some (encErrorResp attOpReadByTypeReq start btAttErrorAttributeNotFound))
      | q => match processReadByType server.security server.attMtu.toNat [] 0 q with
        | .sent pdu => (server, some ⟨attOpReadByTypeResp, pdu⟩)
        | .failed handle ecode => (server, some (encErrorResp attOpReadByTypeReq handle ecode))
        | .waiting => ({ server with pendingReadOp := true }, none) := by
  have htype : getUuidLe (List.drop 4 (putLe16 start ++ putLe16 end_ ++ putLe16 0x2803)) =
      some characteristicUuid := by
    rw [List.append_assoc, drop_putLe16, drop_putLe16, List.drop_zero, getUuidLe, if_pos (putLe16_length _),
      getLe16_alone]
    rfl
  have hfirst : getLe16 (putLe16 start ++ putLe16 end_ ++ putLe16 0x2803) = start := by
    rw [List.append_assoc, getLe16_putLe16]
  have hlast : getLe16 (List.drop 2 (putLe16 start ++ putLe16 end_ ++ putLe16 0x2803)) = end_ := by
    rw [List.append_assoc, drop_putLe16, List.drop_zero, getLe16_putLe16]
  have hmtu : attOpReadByTypeReq ≠ attOpMtuReq := by decide
  have hgroup : attOpReadByTypeReq ≠ attOpReadByGroupReq := by decide
  simp only [serve, handleRequest, charRequest, if_neg hmtu, if_neg hgroup, if_pos, readByTypeCb, htype, hfirst,
    hlast, badRange_none hstart hle, hidle, Bool.false_eq_true, if_false]
  cases gattDbReadByType server.db start end_ characteristicUuid with
  | nil => rfl
  | cons a q =>
    cases hrsp : processReadByType server.security server.attMtu.toNat [] 0 (a :: q) <;>
      simp only [hrsp, errorRsp]

/-- The declarations of a range. -/
def declarations (start end_ : BitVec 16) (db : GattDb) : List GattDbAttribute :=
  between start end_ isCharacteristic db

theorem declarations_declare (h : Regular db) : ∀ a ∈ declarations start end_ db, Declares a := by
  intro a ha
  obtain ⟨hact, -, -, hchar⟩ := mem_between.mp ha
  obtain ⟨s, hs, -, hmem⟩ := active_present hact
  exact ((h.laidOut s hs).declares a hmem hchar).1

/-- The declarations of one response. -/
structure Page (size : ℕ) (page : List GattDbAttribute) : Prop where
  either : size = 5 ∨ size = 19
  declares : ∀ a ∈ page, Declares a
  sized : ∀ a ∈ page, a.value.length = size
  short : (typeResponse size page).length < 65536

theorem typeUnit_length {page : List GattDbAttribute} (h : ∀ a ∈ page, a.value.length = size) :
    ∀ d ∈ page.map typeUnit, d.length = size + 2 := by
  intro d hd
  obtain ⟨a, ha, rfl⟩ := List.mem_map.mp hd
  simp only [typeUnit, List.length_append, putLe16_length, h a ha]
  omega

/-- The server answers with the next declarations there are, one at least. -/
theorem serve_page (h : Regular server.db) (hmtu : 23 ≤ server.attMtu.toNat)
    (hidle : server.pendingReadOp = false) (hstart : start ≠ 0) (hle : start.toNat ≤ end_.toNat)
    (junk : ℕ → UInt8) :
    (declarations start end_ server.db = [] ∧ serve junk server (charRequest start end_) =
        (server, some (encErrorResp attOpReadByTypeReq start btAttErrorAttributeNotFound))) ∨
    ∃ size page more, page ≠ [] ∧ declarations start end_ server.db = page ++ more ∧ Page size page ∧
      serve junk server (charRequest start end_) = (server, some (typeResponse size page)) := by
  have hall : ∀ a ∈ declarations start end_ server.db, Declares a := declarations_declare h
  have hread : gattDbReadByType server.db start end_ characteristicUuid = declarations start end_ server.db :=
    readByType_between h characteristicUuid
  rw [serve_chars hstart hle hidle, hread]
  cases hrest : declarations start end_ server.db with
  | nil => exact .inl ⟨rfl, rfl⟩
  | cons a rest =>
    right
    rw [hrest] at hall
    have hsize := declares_size (hall a (by simp))
    have hlt := server.attMtu.isLt
    have hfirst : (a :: rest).takeWhile (fun b => b.value.length == a.value.length) ≠ [] := by
      rw [List.takeWhile_cons, if_pos (by simp)]
      exact List.cons_ne_nil _ _
    obtain ⟨hne, hroom⟩ := page_room (l := (a :: rest).takeWhile fun b => b.value.length == a.value.length)
      (by omega) (show 1 + (a.value.length + 2) ≤ server.attMtu.toNat - 1 by omega) hfirst
    obtain ⟨more, hsplit⟩ : ∃ more, a :: rest = typePage server.attMtu.toNat a.value.length (a :: rest) ++ more := by
      rw [typePage, List.takeWhile_cons, if_pos (by simp)]
      exact page_split _ a rest _
    have hmem : ∀ b ∈ typePage server.attMtu.toNat a.value.length (a :: rest), b ∈ a :: rest := fun b hb => by
      rw [hsplit]
      exact List.mem_append_left _ hb
    have hsized : ∀ b ∈ typePage server.attMtu.toNat a.value.length (a :: rest),
        b.value.length = a.value.length := fun b hb => by
      simpa using List.mem_takeWhile_imp (List.mem_of_mem_take hb)
    refine ⟨a.value.length, typePage server.attMtu.toNat a.value.length (a :: rest), more, hne, hsplit,
      ⟨hsize, fun b hb => hall b (hmem b hb), hsized, ?_⟩, ?_⟩
    · rw [typeResponse, Pdu.length, List.length_cons, flatten_length (typeUnit_length hsized), List.length_map]
      rw [typePage]
      omega
    · simp only [process_all hall hmtu]
      rfl

/-! What the client makes of it -/

theorem typeUnit_found (h : Declares a) (hsize : a.value.length = size) (hshort : size = 5 ∨ size = 19) :
    charAt none (size + 2 == 7) (typeUnit a) = (a.handle, some (charFound a)) := by
  obtain ⟨properties, uuid, data, hvalue, huuid⟩ := h.shape
  have hunit : typeUnit a = putLe16 a.handle ++ (properties :: (putLe16 (a.handle + 1) ++ data)) := by
    rw [typeUnit, hvalue, List.cons_append]
  have hdata : data.length + 3 = size := by
    rw [← hsize, hvalue, List.length_append, List.length_cons, putLe16_length]
    omega
  have hbytes : ((typeUnit a).drop 5).take (uuidSize (size + 2 == 7)) = data := by
    have hdrop : (typeUnit a).drop 5 = data := by
      rw [hunit, drop_putLe16, List.drop_succ_cons, drop_putLe16, List.drop_zero]
    have hlen : uuidSize (size + 2 == 7) = data.length := by
      rcases hshort with rfl | rfl
      · exact (Nat.succ.inj (Nat.succ.inj (Nat.succ.inj hdata))).symm
      · exact (Nat.succ.inj (Nat.succ.inj (Nat.succ.inj hdata))).symm
    rw [hdrop, hlen, List.take_length]
  have hcharUuid : charUuid a = (getUuidLe data).getD .unspec := by
    rw [charUuid, hvalue, List.cons_append, List.drop_succ_cons, drop_putLe16, List.drop_zero]
  have hhead : (typeUnit a).drop 2 = a.value := by rw [typeUnit, drop_putLe16, List.drop_zero]
  have hthird : (typeUnit a).drop 3 = a.value.drop 1 := by rw [typeUnit, drop_putLe16]
  have hfirst : getLe16 (typeUnit a) = a.handle := by rw [typeUnit, getLe16_putLe16]
  rw [charAt, uuid128At, hbytes, hhead, hthird, hfirst, charFound, hcharUuid, toString_expanded]
  rfl

/-- The client goes on behind the last declaration of a response, unless that is the end of the range. -/
theorem client_page {page : List GattDbAttribute} {last : GattDbAttribute} {dc : DiscoverChar}
    (hall : dc.uuid = none) (h : Page size page) (hlast : page.getLast? = some last)
    (hnext : dc.start.toNat ≤ handleOf last) :
    charDiscoveredCb dc (typeResponse size page) =
      if last.handle ≠ 0 ∧ last.handle + 1 < dc.end_ then
        .send { dc with
          characteristics := dc.characteristics ++ page.map charFound
          start := last.handle + 1 } (charRequest (last.handle + 1) dc.end_)
      else .stop (.called 0 (dc.characteristics ++ page.map charFound)) := by
  have hshort := h.either
  have hne : page ≠ [] := fun hnil => by
    rw [hnil] at hlast
    cases hlast
  have huniform := typeUnit_length h.sized
  have hdec : decReadByTypeResp (typeResponse size page) =
      some ⟨size + 2, page.map typeUnit, huniform, by omega⟩ := by
    have hexact : Exact 3 ⟨size + 2, page.map typeUnit, huniform, by omega⟩ (typeResponse size page) :=
      ⟨by show 3 ≤ size + 2; omega, by simpa using hne, rfl⟩
    exact (decList_exact (by decide) rfl h.short).mpr ⟨rfl, hexact⟩
  have hfound : (page.map typeUnit).mapM (charOf none (size + 2 == 7)) =
      .ok (page.map fun a => (a.handle, some (charFound a))) := by
    have hsize : 5 + uuidSize (size + 2 == 7) = size + 2 := by
      rcases hshort with rfl | rfl <;> rfl
    rw [mapM_ok (g := charAt none (size + 2 == 7)) fun d hd => charOf_ok (by rw [huniform d hd, hsize]),
      List.map_map]
    congr 1
    exact List.map_congr_left fun a ha => typeUnit_found (h.declares a ha) (h.sized a ha) hshort
  have hend : ((page.map fun a => (a.handle, some (charFound a))).getLast?.map Prod.fst).getD 0 =
      last.handle := by
    rw [List.getLast?_map, hlast]
    rfl
  have hchars : (page.map fun a => (a.handle, some (charFound a))).filterMap Prod.snd = page.map charFound := by
    rw [List.filterMap_map]
    show page.filterMap (fun a => some (charFound a)) = _
    simp
  have hresponse : attOpReadByTypeResp ≠ attOpError := by decide
  have hstatus : statusOf (typeResponse size page) = 0 := if_neg hresponse
  have hnone : (0 : UInt8) ≠ attEcodeAttrNotFound := by decide
  have hbehind : ¬last.handle < dc.start := Nat.not_lt.mpr hnext
  have hrequest : encReadByTypeReq (last.handle + 1) dc.end_ gattCharacUuid =
      some (charRequest (last.handle + 1) dc.end_) := rfl
  simp only [charDiscoveredCb, hstatus, hdec, hall, hfound, hend, hchars, if_neg hnone, if_neg hbehind, hrequest,
    ne_eq, not_true_eq_false, if_false]

/-- The search ends when there are no more declarations, and with an error when there were none. -/
theorem client_none (dc : DiscoverChar) (start : BitVec 16) :
    charDiscoveredCb dc (encErrorResp attOpReadByTypeReq start btAttErrorAttributeNotFound) =
      .stop (.called (if dc.characteristics = [] then attEcodeAttrNotFound else 0) dc.characteristics) := by
  have hstatus : statusOf (encErrorResp attOpReadByTypeReq start btAttErrorAttributeNotFound) =
      attEcodeAttrNotFound := rfl
  simp only [charDiscoveredCb, hstatus, if_true]

/-! The whole search -/

/-- The client when it has found some declarations. -/
def collected (start end_ : BitVec 16) (done : List GattDbAttribute) : DiscoverChar :=
  ⟨none, startBehind start done, end_, done.map charFound⟩

/-- How the search ends. -/
def charsCalled (found : List GattDbAttribute) : Ended GattChar :=
  .called (if found = [] then attEcodeAttrNotFound else 0) (found.map charFound)

theorem declaration_not_last (h : Regular db) (ha : a ∈ activeAttributes db) (hc : isCharacteristic a = true) :
    handleOf a < 65535 := by
  obtain ⟨s, hs, -, hmem⟩ := active_present ha
  have hlt : handleOf a < lastOf s := ((h.laidOut s hs).declares a hmem hc).2
  have hlast : lastOf s < 65536 := s.endHandle.isLt
  omega

/-- No declaration is at the end of the range. The last handle there is never has one. -/
def OpenEnd (db : GattDb) (end_ : BitVec 16) : Prop :=
  end_ = 0xFFFF ∨ ∀ a ∈ activeAttributes db, isCharacteristic a = true → a.handle ≠ end_

theorem openEnd (h : Regular db) (hend : OpenEnd db end_) (ha : a ∈ activeAttributes db)
    (hc : isCharacteristic a = true) : handleOf a ≠ end_.toNat := by
  rcases hend with rfl | hend
  · exact Nat.ne_of_lt (declaration_not_last h ha hc)
  · exact fun he => hend a ha hc (BitVec.eq_of_toNat_eq he)

/-- One request of the search and its answer. -/
theorem search_page (h : Regular server.db) (hmtu : 23 ≤ server.attMtu.toNat)
    (hidle : server.pendingReadOp = false) (hstart : start ≠ 0) (hend : OpenEnd server.db end_)
    {done rest : List GattDbAttribute} (hitems : declarations start end_ server.db = done ++ rest)
    (hasks : (startBehind start done).toNat ≤ end_.toNat) :
    ∃ resp, serve junk server (charRequest (startBehind start done) end_) = (server, some resp) ∧
      ((rest = [] ∧ charDiscoveredCb (collected start end_ done) resp =
          .stop (charsCalled (declarations start end_ server.db))) ∨
        ∃ page more, page ≠ [] ∧ rest = page ++ more ∧
          ((more = [] ∧ charDiscoveredCb (collected start end_ done) resp =
              .stop (charsCalled (declarations start end_ server.db))) ∨
            (startBehind start (done ++ page)).toNat ≤ end_.toNat ∧
              charDiscoveredCb (collected start end_ done) resp = .send (collected start end_ (done ++ page))
                (charRequest (startBehind start (done ++ page)) end_))) := by
  have hmem : ∀ a ∈ declarations start end_ server.db, handleOf a < 65535 := fun a ha => by
    obtain ⟨hact, -, -, hc⟩ := mem_between.mp ha
    exact declaration_not_last h hact hc
  have hbehind : (startBehind start done).toNat = behind handleOf start.toNat done :=
    startBehind_toNat fun a ha => hmem a (by
      rw [hitems]
      exact List.mem_append_left _ (List.mem_of_getLast? ha))
  have hrest : declarations (startBehind start done) end_ server.db = rest := between_rest h hitems hbehind
  have hstart' : startBehind start done ≠ 0 := by
    intro hzero
    rw [hzero, behind] at hbehind
    cases hlast : done.getLast? with
    | none =>
      rw [hlast] at hbehind
      exact hstart (BitVec.eq_of_toNat_eq hbehind.symm)
    | some a => simp [hlast] at hbehind
  rcases serve_page h hmtu hidle hstart' hasks junk with ⟨hnone, hserve⟩ | ⟨size, page, more, hne, hpage, hdecl, hserve⟩
  · rw [hrest] at hnone
    refine ⟨_, hserve, .inl ⟨hnone, ?_⟩⟩
    rw [client_none, hitems, hnone, List.append_nil, charsCalled, collected]
    simp
  · rw [hrest] at hpage
    obtain ⟨last, hlast⟩ : ∃ last, page.getLast? = some last := ⟨_, List.getLast?_eq_some_getLast hne⟩
    have hin : last ∈ declarations (startBehind start done) end_ server.db := by
      rw [hrest, hpage]
      exact List.mem_append_left _ (List.mem_of_getLast? hlast)
    obtain ⟨hact, hge, hle, hc⟩ := mem_between.mp hin
    have hlt := declaration_not_last h hact hc
    have hnext : (last.handle + 1).toNat = handleOf last + 1 := by
      have hone : BitVec.toNat (1 : BitVec 16) = 1 := rfl
      have hhandle : handleOf last = last.handle.toNat := rfl
      rw [BitVec.toNat_add, hone]
      omega
    refine ⟨_, hserve, .inr ⟨page, more, hne, hpage, ?_⟩⟩
    rw [client_page rfl hdecl hlast hge, startBehind_append hlast]
    by_cases hmore : last.handle + 1 < end_
    · right
      have hmore' : (last.handle + 1).toNat < end_.toNat := hmore
      refine ⟨Nat.le_of_lt hmore', ?_⟩
      have hpos : last.handle ≠ 0 := by
        intro hzero
        have hzero' : handleOf last = 0 := congrArg BitVec.toNat hzero
        have := active_pos h hact
        omega
      rw [if_pos ⟨hpos, hmore⟩, collected, collected, startBehind_append hlast, List.map_append]
    · left
      have hmore' : ¬(last.handle + 1).toNat < end_.toNat := hmore
      have hnil : more = [] := by
        refine List.eq_nil_iff_forall_not_mem.mpr fun b hb => ?_
        have hb' : b ∈ declarations (startBehind start done) end_ server.db := by
          rw [hrest, hpage]
          exact List.mem_append_right _ hb
        obtain ⟨hbact, -, hble, hbc⟩ := mem_between.mp hb'
        have hapart : Apart handleOf handleOf (between (startBehind start done) end_ isCharacteristic server.db) :=
          between_apart h
        have hsplit : between (startBehind start done) end_ isCharacteristic server.db = page ++ more :=
          hrest.trans hpage
        rw [hsplit] at hapart
        have hlast' := (List.pairwise_append.mp hapart).2.2 last (List.mem_of_getLast? hlast) b hb
        exact openEnd h hend hbact hbc (by omega)
      refine ⟨hnil, ?_⟩
      have hsome : done ++ page ≠ [] := by simp [hne]
      rw [if_neg (fun hp => hmore hp.2), hitems, hpage, hnil, List.append_nil, charsCalled, if_neg hsome,
        List.map_append]
      rfl

/-- What the library reports of a declaration: its handles, its properties, and a UUID that denotes
the number of the one in it. -/
def Reports (a : GattDbAttribute) (found : CharacteristicDiscovery.GattlibCharacteristic) : Prop :=
  found.handle = a.handle ∧ found.valueHandle = a.handle + 1 ∧
    ∃ properties uuid data, a.value = properties :: putLe16 (a.handle + 1) ++ data ∧
      getUuidLe data = some uuid ∧ found.properties = BitVec.ofNat 8 properties.toNat ∧
      Uuids.denoted found.uuid = Uuids.denoted (UuidText.btUuidToUuid uuid)

theorem found_reports (h : Declares a) : Reports a (characteristicOf (charFound a)) := by
  obtain ⟨properties, uuid, data, hvalue, huuid⟩ := h.shape
  have hthree : a.value.drop 3 = data := by
    rw [hvalue, List.cons_append, List.drop_succ_cons, drop_putLe16, List.drop_zero]
  have hone : getLe16 (a.value.drop 1) = a.handle + 1 := by
    rw [hvalue, List.cons_append, List.drop_succ_cons, List.drop_zero, getLe16_putLe16]
  have hhead : a.value.headD 0 = properties := by rw [hvalue]; rfl
  have hknown : uuid ≠ .unspec := by
    rintro rfl
    have hput := putUuidLe_getUuidLe huuid
    cases hput
  refine ⟨rfl, hone, properties, uuid, data, hvalue, huuid, ?_, ?_⟩
  · show BitVec.ofNat 8 (a.value.headD 0).toNat = _
    rw [hhead]
  show Uuids.denoted (uuidOfText (charFound a).uuid) = _
  rw [charFound, charUuid, hthree, huuid, Option.getD_some, denoted_text hknown]

/-- The search for characteristics at a server with a regularly filled database ends, after one request
more than there are declarations in the range at most, with all of them, in their order. -/
theorem characteristics_found (junk : ℕ → UInt8) (server : BtGattServer)
    (h : Reach dbStep RegularCall (· = gattDbNew) server.db) (hmtu : 23 ≤ server.attMtu.toNat)
    (hidle : server.pendingReadOp = false) (start end_ : BitVec 16) (hstart : start ≠ 0)
    (hle : start.toNat ≤ end_.toNat) (hend : OpenEnd server.db end_) (n : ℕ)
    (hn : (declarations start end_ server.db).length < n) :
    ∃ next status found, gattDiscoverChar start end_ none = some next ∧
      converse charDiscoveredCb (serve junk) n server next = .ended server (.called status found) ∧
      List.Forall₂ Reports (declarations start end_ server.db) (gattlibCharacteristicCb status found) := by
  have hreg := reach_regular h
  refine ⟨.send (collected start end_ []) (charRequest (startBehind start []) end_), _, _, rfl,
    pages_complete (fun done rest => search_page hreg hmtu hidle hstart hend) (List.nil_append _).symm hle hn,
    ?_⟩
  have hall : ∀ a ∈ declarations start end_ server.db, Declares a := declarations_declare hreg
  rw [gattlibCharacteristicCb]
  by_cases hnone : declarations start end_ server.db = []
  · rw [if_pos (by rw [if_pos hnone]; decide), hnone]
    exact .nil
  · rw [if_neg (by rw [if_neg hnone]; simp), List.map_map, List.forall₂_map_right_iff, List.forall₂_same]
    exact fun a ha => found_reports (hall a ha)

theorem characteristics_found_battery : ∃ next status found, gattDiscoverChar 1 0xFFFF none = some next ∧
    converse charDiscoveredCb (serve fun _ => 0) 2 (btGattServerNew batteryDb 23 23 1) next =
      .ended (btGattServerNew batteryDb 23 23 1) (.called status found) ∧
    List.Forall₂ Reports (declarations 1 0xFFFF batteryDb) (gattlibCharacteristicCb status found) :=
  characteristics_found (fun _ => 0) (btGattServerNew batteryDb 23 23 1) batteryDb_reached (by decide) rfl 1
    0xFFFF (by decide) (by decide) (.inl rfl) 2 (by decide)

end

end Gattlib.CharacteristicSearch
