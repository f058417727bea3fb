import Gattlib.DatabaseLayout
import Gattlib.GattDiscovery
import Gattlib.GattServer
import Gattlib.PduRoundTrips
import Mathlib.Data.List.TakeWhile

namespace Gattlib.PrimaryDiscovery

open Uuids (BtUuid btUuidToUuid128)
open UuidText (maxLenUuidStr)
open AttPdus GattDatabase GattServer GattDiscovery ServiceOrder DatabaseLayout PduRoundTrips
open Library.Dialogue Library.Records Library.Spans Library.Transition

/-- The active primary services of a database. -/
def primaryServices (db : GattDb) : List GattDbService :=
  db.services.filter fun s => s.active && btUuidSame primaryServiceUuid s.decl.uuid

/-- What the client is to find of a service. -/
def primaryFound (s : GattDbService) : GattPrimary :=
  ⟨btUuidToString ((serviceUuid s).getD .unspec) (maxLenUuidStr + 1), ⟨s.startHandle, s.endHandle⟩⟩

/-- The entry of a service in a response. -/
def groupUnit (s : GattDbService) : List UInt8 :=
  putLe16 s.startHandle ++ putLe16 s.endHandle ++ s.decl.value

/-- The first services, as long as their declarations have one size. -/
def sameSize : List GattDbService → List GattDbService
  | [] => []
  | s :: rest => s :: rest.takeWhile fun a => a.decl.valueLen == s.decl.valueLen

section

variable {db : GattDb} {s : GattDbService} {q services : List GattDbService} {start : BitVec 16}
  {type : BtUuid} {mtu size : ℕ} {pdu : List UInt8} {junk : ℕ → UInt8} {server : BtGattServer}

/-! What the server puts into a response -/

/-- The services of a type that begin at the handle or behind it. -/
def begunBehind (start : BitVec 16) (type : BtUuid) (services : List GattDbService) : List GattDbService :=
  (services.filter fun s => s.active && btUuidSame type s.decl.uuid).filter fun s =>
    decide (start.toNat ≤ firstOf s)

theorem begunBehind_cons (s : GattDbService) (services : List GattDbService) :
    begunBehind start type (s :: services) =
      if s.active = true ∧ btUuidSame type s.decl.uuid = true ∧ start.toNat ≤ firstOf s then
        s :: begunBehind start type services
      else begunBehind start type services := by
  simp only [begunBehind, List.filter_cons]
  by_cases ha : s.active = true <;> by_cases ht : btUuidSame type s.decl.uuid = true <;>
    by_cases hs : start.toNat ≤ firstOf s <;> simp [ha, ht, hs]

/-- One round of the loop of `gatt_db_read_by_group_type` up to the last handle there is. -/
theorem readByGroupType_cons (s : GattDbService) (services : List GattDbService) (n : BitVec 16) :
    readByGroupType start 0xFFFF type n (s :: services) =
      if s.active = true ∧ btUuidSame type s.decl.uuid = true ∧ start.toNat ≤ firstOf s then
        if n = 0 then s :: readByGroupType start 0xFFFF type s.decl.valueLen services
        else if n ≠ s.decl.valueLen then []
        else s :: readByGroupType start 0xFFFF type n services
      else readByGroupType start 0xFFFF type n services := by
  have hle := first_le_last s
  have hmax : ¬s.startHandle > 0xFFFF := by
    show ¬(65535 < s.startHandle.toNat)
    have := s.startHandle.isLt
    omega
  have hstart : s.startHandle < start ↔ ¬start.toNat ≤ firstOf s := Nat.not_le.symm
  have hend : s.endHandle < start → s.startHandle < start := fun h =>
    Nat.lt_of_le_of_lt hle (h : lastOf s < start.toNat)
  rw [readByGroupType]
  by_cases ha : s.active = true <;> by_cases ht : btUuidSame type s.decl.uuid = true <;>
    by_cases hs : start.toNat ≤ firstOf s
  · have hnot : ¬s.startHandle < start := fun h => hstart.mp h hs
    have hnot' : ¬s.endHandle < start := fun h => hnot (hend h)
    have hkept : s.active = true ∧ btUuidSame type s.decl.uuid = true ∧ start.toNat ≤ firstOf s :=
      ⟨ha, ht, hs⟩
    rw [if_neg (by simp [ha]), if_neg (by simp [ht]), if_neg (not_or.mpr ⟨hnot', hmax⟩),
      if_neg (not_or.mpr ⟨hnot, hmax⟩), if_pos hkept]
  · have hbefore := hstart.mpr hs
    by_cases he : s.endHandle < start <;> simp [ha, ht, hs, he, hbefore]
  all_goals simp [ha, ht]

theorem readByGroupType_set {n : BitVec 16} (hn : n ≠ 0) :
    readByGroupType start 0xFFFF type n services =
      (begunBehind start type services).takeWhile fun a => a.decl.valueLen == n := by
  induction services with
  | nil => rfl
  | cons s services ih =>
    rw [readByGroupType_cons, begunBehind_cons]
    by_cases hkept : s.active = true ∧ btUuidSame type s.decl.uuid = true ∧ start.toNat ≤ firstOf s
    · rw [if_pos hkept, if_pos hkept, if_neg hn, List.takeWhile_cons]
      by_cases hsame : s.decl.valueLen = n
      · rw [if_neg (by simp [hsame]), if_pos (by simp [hsame]), ih]
      · rw [if_pos (Ne.symm hsame), if_neg (by simp [hsame])]
    · rw [if_neg hkept, if_neg hkept, ih]

theorem readByGroupType_first (hpos : ∀ s ∈ services, s.decl.valueLen ≠ 0) :
    readByGroupType start 0xFFFF type 0 services = sameSize (begunBehind start type services) := by
  induction services with
  | nil => rfl
  | cons s services ih =>
    rw [readByGroupType_cons, begunBehind_cons]
    by_cases hkept : s.active = true ∧ btUuidSame type s.decl.uuid = true ∧ start.toNat ≤ firstOf s
    · rw [if_pos hkept, if_pos hkept, if_pos rfl, readByGroupType_set (hpos s (by simp))]
      rfl
    · rw [if_neg hkept, if_neg hkept, ih fun t ht => hpos t (by simp [ht])]

/-- The declarations of the services have values of one size, that of one of the UUIDs. -/
structure Grouped (size : ℕ) (q : List GattDbService) : Prop where
  short : size = 2 ∨ size = 16
  held : ∀ s ∈ q, Held s.decl
  sized : ∀ s ∈ q, s.decl.value.length = size

theorem encodeGroups_more (h : Grouped size q) (hpdu : pdu ≠ []) :
    encodeGroups mtu pdu size q =
      some (pdu ++ (fitting (size + 4) (mtu - 1) pdu.length (q.map groupUnit)).flatten) := by
  induction q generalizing pdu with
  | nil => simp [encodeGroups, fitting]
  | cons s q ih =>
    have hsize := h.sized s (by simp)
    have hne : s.decl.value ≠ [] := by
      intro hnil
      rw [hnil, List.length_nil] at hsize
      have := h.short
      omega
    simp only [encodeGroups, attributeRead_held (h.held s (by simp)), if_neg hne, hpdu, ne_eq,
      not_false_eq_true, true_and, hsize, not_true_eq_false, if_false, List.map_cons, fitting]
    by_cases hfit : pdu.length + (size + 4) ≤ mtu - 1
    · have hunit : s.decl.value.take size = s.decl.value := by rw [← hsize, List.take_length]
      have hlen : (pdu ++ putLe16 s.startHandle ++ putLe16 s.endHandle ++ s.decl.value).length =
          pdu.length + (size + 4) := by
        simp only [List.length_append, putLe16_length, hsize]
        omega
      rw [if_neg (by omega), if_pos hfit, hunit, ih ⟨h.short, fun t ht => h.held t (by simp [ht]),
        fun t ht => h.sized t (by simp [ht])⟩ (by simp [hpdu]), hlen]
      simp [groupUnit]
    · rw [if_pos (by omega), if_neg hfit]
      simp

/-- The response has as many services as there is place for. -/
theorem encodeGroups_all (h : Grouped size q) (hq : q ≠ []) (hmtu : 23 ≤ mtu) :
    encodeGroups mtu [] 0 q = some (UInt8.ofNat (size + 4) ::
      ((q.take ((mtu - 2) / (size + 4))).map groupUnit).flatten) := by
  obtain ⟨s, rest, rfl⟩ := List.exists_cons_of_ne_nil hq
  have hsize := h.sized s (by simp)
  have hshort := h.short
  have hne : s.decl.value ≠ [] := by
    intro hnil
    rw [hnil, List.length_nil] at hsize
    omega
  have hmin : min (min (mtu - 6) 251) size = size := by omega
  have hfirst : encodeGroups mtu [] 0 (s :: rest) =
      encodeGroups mtu [UInt8.ofNat (size + 4)] size (s :: rest) := by
    simp only [encodeGroups, attributeRead_held (h.held s (by simp)), if_neg hne, hsize, hmin, ne_eq,
      not_true_eq_false, false_and, and_false, if_false, if_true, reduceCtorEq]
  rw [hfirst, encodeGroups_more h (by simp), fitting_take (by omega) (by simp; omega), List.map_take]
  have hroom : mtu - 1 - [UInt8.ofNat (size + 4)].length = mtu - 2 := by simp; omega
  rw [hroom]
  rfl

theorem declared_size (h : Declared s) : s.decl.value.length = 2 ∨ s.decl.value.length = 16 := by
  obtain ⟨uuid, huuid⟩ := Option.isSome_iff_exists.mp h.uuid
  rw [getUuidLe] at huuid
  by_cases h2 : s.decl.value.length = 2
  · exact .inl h2
  · by_cases h16 : s.decl.value.length = 16
    · exact .inr h16
    · rw [if_neg h2, dif_neg h16] at huuid
      cases huuid

theorem sameSize_grouped (h : ∀ a ∈ s :: services, Declared a) :
    Grouped s.decl.value.length (sameSize (s :: services)) := by
  have hmem : ∀ a ∈ sameSize (s :: services), a ∈ s :: services ∧ a.decl.valueLen = s.decl.valueLen := by
    intro a ha
    rcases List.mem_cons.mp ha with rfl | ha
    · exact ⟨by simp, rfl⟩
    · refine ⟨List.mem_cons_of_mem s ((List.takeWhile_subset _) ha), ?_⟩
      simpa using List.mem_takeWhile_imp ha
  refine ⟨declared_size (h s (by simp)), fun a ha => (h a (hmem a ha).1).toHeld, fun a ha => ?_⟩
  rw [← (h a (hmem a ha).1).whole, (hmem a ha).2, (h s (by simp)).whole]

/-- The response with the entries of some services. -/
def groupResponse (size : ℕ) (page : List GattDbService) : Pdu :=
  ⟨attOpReadByGroupResp, UInt8.ofNat (size + 4) :: (page.map groupUnit).flatten⟩

/-- The request of the client, at the server. -/
def primaryRequest (start : BitVec 16) : Pdu :=
  ⟨attOpReadByGroupReq, putLe16 start ++ putLe16 0xFFFF ++ putLe16 0x2800⟩

theorem serve_primary (hstart : start ≠ 0) (junk : ℕ → UInt8) (server : BtGattServer) :
    serve junk server (primaryRequest start) = (server, match
        gattDbReadByGroupType server.db start 0xFFFF primaryServiceUuid with
      | [] => some (encErrorResp attOpReadByGroupReq start btAttErrorAttributeNotFound)
      | q => match encodeGroups server.attMtu.toNat [] 0 q with
        | none => some (encErrorResp attOpReadByGroupReq start btAttErrorUnlikely)
        | some rsp => some ⟨attOpReadByGroupResp, rsp⟩) := by
  have htype : getUuidLe (List.drop 4 (putLe16 start ++ putLe16 0xFFFF ++ putLe16 0x2800)) =
      some primaryServiceUuid := by
    rw [List.append_assoc, drop_putLe16, drop_putLe16, List.drop_zero, getUuidLe, if_pos (putLe16_length _),
      getLe16_alone]
    rfl
  have hfirst : getLe16 (putLe16 start ++ putLe16 0xFFFF ++ putLe16 0x2800) = start := by
    rw [List.append_assoc, getLe16_putLe16]
  have hlast : getLe16 (List.drop 2 (putLe16 start ++ putLe16 0xFFFF ++ putLe16 0x2800)) = 0xFFFF := by
    rw [List.append_assoc, drop_putLe16, List.drop_zero, getLe16_putLe16]
  have hrange : badRange start 0xFFFF = none := by
    have hmax : ¬start > 0xFFFF := by
      show ¬(65535 < start.toNat)
      have := start.isLt
      omega
    rw [badRange, if_neg (not_or.mpr ⟨hstart, by decide⟩), if_neg hmax]
  have hprimary : (!btUuidSame primaryServiceUuid primaryServiceUuid &&
      !btUuidSame primaryServiceUuid secondaryServiceUuid) = false := by decide
  have hnot : attOpReadByGroupReq ≠ attOpMtuReq := by decide
  simp only [serve, handleRequest, primaryRequest, if_neg hnot, if_pos, readByGrpTypeCb, htype, hfirst,
    hlast, hrange, hprimary, Bool.false_eq_true, if_false]
  cases gattDbReadByGroupType server.db start 0xFFFF primaryServiceUuid with
  | nil => rfl
  | cons s q => cases hrsp : encodeGroups server.attMtu.toNat [] 0 (s :: q) <;> simp only [hrsp, errorRsp]

theorem begunBehind_mem (h : s ∈ begunBehind start type services) : s ∈ services :=
  List.mem_of_mem_filter (List.mem_of_mem_filter h)

/-- The server answers with the next services there are, one at least. -/
theorem serve_page (h : Regular server.db) (hmtu : 23 ≤ server.attMtu.toNat) (hstart : start ≠ 0)
    (junk : ℕ → UInt8) :
    (begunBehind start primaryServiceUuid server.db.services = [] ∧
      serve junk server (primaryRequest start) =
        (server, some (encErrorResp attOpReadByGroupReq start btAttErrorAttributeNotFound))) ∨
    ∃ size page more, page ≠ [] ∧
      begunBehind start primaryServiceUuid server.db.services = page ++ more ∧ Grouped size page ∧
      (groupResponse size page).length < 65536 ∧
      serve junk server (primaryRequest start) = (server, some (groupResponse size page)) := by
  have hread : gattDbReadByGroupType server.db start 0xFFFF primaryServiceUuid =
      sameSize (begunBehind start primaryServiceUuid server.db.services) := by
    refine readByGroupType_first fun s hs hzero => ?_
    have hdecl := (h.laidOut s hs).declared
    have hsize := declared_size hdecl
    rw [← hdecl.whole, hzero] at hsize
    exact absurd hsize (by decide)
  rw [serve_primary hstart, hread]
  cases hrest : begunBehind start primaryServiceUuid server.db.services with
  | nil => exact .inl ⟨rfl, rfl⟩
  | cons s rest =>
    right
    have hgrouped : Grouped s.decl.value.length (sameSize (s :: rest)) := by
      refine sameSize_grouped fun a ha => (h.laidOut a ?_).declared
      rw [← hrest] at ha
      exact begunBehind_mem ha
    generalize s.decl.value.length = size at hgrouped
    have hshort := hgrouped.short
    have hlt := server.attMtu.isLt
    have hcount : server.attMtu.toNat - 2 = server.attMtu.toNat - 1 - 1 := rfl
    obtain ⟨hne, hroom⟩ := page_room (l := sameSize (s :: rest)) (by omega)
      (show 1 + (size + 4) ≤ server.attMtu.toNat - 1 by omega) (List.cons_ne_nil _ _)
    rw [← hcount] at hne hroom
    have hmem : ∀ a ∈ (sameSize (s :: rest)).take ((server.attMtu.toNat - 2) / (size + 4)),
        a ∈ sameSize (s :: rest) := fun a ha => List.mem_of_mem_take ha
    obtain ⟨more, hsplit⟩ := page_split (fun a => a.decl.valueLen == s.decl.valueLen) s rest
      ((server.attMtu.toNat - 2) / (size + 4))
    refine ⟨size, _, more, hne, hsplit,
      ⟨hshort, fun a ha => hgrouped.held a (hmem a ha), fun a ha => hgrouped.sized a (hmem a ha)⟩, ?_, ?_⟩
    · have huniform : ∀ d ∈ ((sameSize (s :: rest)).take ((server.attMtu.toNat - 2) / (size + 4))).map
          groupUnit, d.length = size + 4 := by
        intro d hd
        obtain ⟨a, ha, rfl⟩ := List.mem_map.mp hd
        simp only [groupUnit, List.length_append, putLe16_length, hgrouped.sized a (hmem a ha)]
        omega
      rw [groupResponse, Pdu.length, List.length_cons, flatten_length huniform, List.length_map]
      omega
    · have henc := encodeGroups_all hgrouped (List.cons_ne_nil _ _) hmtu
      simp only [sameSize] at henc ⊢
      rw [henc]
      rfl

/-! What the client makes of it -/

theorem groupUnit_found (hheld : Held s.decl) (hsize : s.decl.value.length = size)
    (hshort : size = 2 ∨ size = 16) : primaryAt (size + 4 == 6) (groupUnit s) = primaryFound s := by
  have hvalue : serviceUuid s = getUuidLe s.decl.value := by
    rw [serviceUuid, hheld.whole, List.take_length]
  have hbytes : ((groupUnit s).drop 4).take (uuidSize (size + 4 == 6)) = s.decl.value := by
    have hdrop : (groupUnit s).drop 4 = s.decl.value := by
      rw [groupUnit, List.append_assoc, drop_putLe16, drop_putLe16, List.drop_zero]
    have huuid : uuidSize (size + 4 == 6) = size := by
      rcases hshort with rfl | rfl <;> rfl
    rw [hdrop, huuid, ← hsize, List.take_length]
  rw [primaryAt, uuid128At, hbytes, toString_expanded, primaryFound, hvalue, groupUnit, List.append_assoc,
    getLe16_putLe16, drop_putLe16, List.drop_zero, getLe16_putLe16]

/-- The client goes on behind the last service of a response. -/
theorem client_page {page : List GattDbService} {last : GattDbService} {room : ℕ} (dp : DiscoverPrimary)
    (h : Grouped size page) (hlen : (groupResponse size page).length < 65536)
    (hlast : page.getLast? = some last) (hnext : dp.start.toNat ≤ lastOf last) :
    primaryAllCb room dp (groupResponse size page) =
      if last.endHandle ≠ 0xFFFF then
        .send ⟨last.endHandle + 1, dp.primaries ++ page.map primaryFound⟩
          (primaryRequest (last.endHandle + 1))
      else .stop (.called 0 (dp.primaries ++ page.map primaryFound)) := by
  have hshort := h.short
  have huniform : ∀ d ∈ page.map groupUnit, d.length = size + 4 := by
    intro d hd
    obtain ⟨a, ha, rfl⟩ := List.mem_map.mp hd
    simp only [groupUnit, List.length_append, putLe16_length, h.sized a ha]
    omega
  have hne : page ≠ [] := fun hnil => by
    rw [hnil] at hlast
    cases hlast
  have hdec : decReadByGrpResp (groupResponse size page) =
      some ⟨size + 4, page.map groupUnit, huniform, by omega⟩ := by
    have hexact : Exact 5 ⟨size + 4, page.map groupUnit, huniform, by omega⟩ (groupResponse size page) :=
      ⟨by show 5 ≤ size + 4; omega, by simpa using hne, rfl⟩
    exact (decList_exact (by decide) rfl hlen).mpr ⟨rfl, hexact⟩
  have hfound : (page.map groupUnit).mapM (primaryOf (size + 4 == 6)) = .ok (page.map primaryFound) := by
    have hsize : uuidSize (size + 4 == 6) = size := by
      rcases hshort with rfl | rfl <;> rfl
    rw [mapM_ok (g := primaryAt (size + 4 == 6)) fun d hd => primaryOf_ok (by rw [huniform d hd, hsize]; omega),
      List.map_map]
    congr 1
    refine List.map_congr_left fun a ha => ?_
    exact groupUnit_found (h.held a ha) (h.sized a ha) hshort
  have hend : ((page.map primaryFound).getLast?.map fun primary => primary.range.end_).getD 0 =
      last.endHandle := by
    rw [List.getLast?_map, hlast]
    rfl
  have hresponse : attOpReadByGroupResp ≠ attOpError := by decide
  have hstatus : statusOf (groupResponse size page) = 0 := if_neg hresponse
  have hknown : ¬(size + 4 ≠ 6 ∧ size + 4 ≠ 20) := by omega
  have hbehind : ¬last.endHandle < dp.start := Nat.not_lt.mpr hnext
  have hrequest : encodeDiscoverPrimary (last.endHandle + 1) 0xFFFF none room =
      some (primaryRequest (last.endHandle + 1)) := rfl
  simp only [primaryAllCb, hstatus, hdec, hfound, hend, if_neg hknown, if_neg hbehind, hrequest, ne_eq,
    not_true_eq_false, if_false]

/-- The search ends well when there are no more services. -/
theorem client_none {room : ℕ} (dp : DiscoverPrimary) (start : BitVec 16) :
    primaryAllCb room dp (encErrorResp attOpReadByGroupReq start btAttErrorAttributeNotFound) =
      .stop (.called 0 dp.primaries) := by
  have hstatus : statusOf (encErrorResp attOpReadByGroupReq start btAttErrorAttributeNotFound) =
      attEcodeAttrNotFound := rfl
  have hzero : attEcodeAttrNotFound ≠ 0 := by decide
  simp only [primaryAllCb, hstatus, hzero, ne_eq, not_false_eq_true, if_true]

/-! The whole search -/

/-- Where the search goes on once it has found some services. -/
def startBehind (done : List GattDbService) : BitVec 16 :=
  (done.getLast?.map fun s => s.endHandle + 1).getD 1

theorem startBehind_toNat {done : List GattDbService} (h : ∀ s ∈ done.getLast?, s.endHandle ≠ 0xFFFF) :
    (startBehind done).toNat = behind lastOf 1 done := by
  rw [startBehind, behind]
  cases hlast : done.getLast? with
  | none => rfl
  | some s =>
    have hne : s.endHandle.toNat ≠ 65535 := fun he => h s hlast (BitVec.eq_of_toNat_eq he)
    have hlt := s.endHandle.isLt
    have hone : BitVec.toNat (1 : BitVec 16) = 1 := rfl
    show (s.endHandle + 1).toNat = s.endHandle.toNat + 1
    rw [BitVec.toNat_add, hone]
    omega

/-- The client when it has found some services. -/
def collected (done : List GattDbService) : DiscoverPrimary := ⟨startBehind done, done.map primaryFound⟩

/-- Nothing has been found up to the last handle there is. -/
def Unfinished (done : List GattDbService) : Prop := ∀ s ∈ done.getLast?, s.endHandle ≠ 0xFFFF

/-- One request of the search and its answer. -/
theorem search_page (h : Regular server.db) (hmtu : 23 ≤ server.attMtu.toNat) (room : ℕ)
    {done rest : List GattDbService} (hitems : primaryServices server.db = done ++ rest)
    (hasks : Unfinished done) :
    ∃ resp, serve junk server (primaryRequest (startBehind done)) = (server, some resp) ∧
      ((rest = [] ∧ primaryAllCb room (collected done) resp =
          .stop (.called 0 ((primaryServices server.db).map primaryFound))) ∨
        ∃ page more, page ≠ [] ∧ rest = page ++ more ∧
          ((more = [] ∧ primaryAllCb room (collected done) resp =
              .stop (.called 0 ((primaryServices server.db).map primaryFound))) ∨
            Unfinished (done ++ page) ∧ primaryAllCb room (collected done) resp =
              .send (collected (done ++ page)) (primaryRequest (startBehind (done ++ page))))) := by
  have hapart : Apart firstOf lastOf (primaryServices server.db) :=
    apart_sublist h.apart List.filter_sublist
  have hbehind := startBehind_toNat hasks
  rw [hitems] at hapart
  have hrest : begunBehind (startBehind done) primaryServiceUuid server.db.services = rest := by
    rw [begunBehind, hbehind]
    show (primaryServices server.db).filter _ = rest
    rw [hitems]
    refine apart_behind hapart (fun s _ => first_le_last s) fun s hs => ?_
    have hin : s ∈ primaryServices server.db := by
      rw [hitems]
      exact List.mem_append_right _ hs
    exact h.handles s (List.mem_of_mem_filter hin)
  have hstart : startBehind done ≠ 0 := by
    intro hzero
    rw [hzero, behind] at hbehind
    cases hlast : done.getLast? with
    | none => simp [hlast] at hbehind
    | some s => simp [hlast] at hbehind
  rcases serve_page h hmtu hstart junk with ⟨hnone, hserve⟩ | ⟨size, page, more, hne, hpage, hgrouped, hlen, hserve⟩
  · rw [hrest] at hnone
    refine ⟨_, hserve, .inl ⟨hnone, ?_⟩⟩
    rw [client_none, hitems, hnone, List.append_nil]
    rfl
  · rw [hrest] at hpage
    obtain ⟨last, hlast⟩ : ∃ last, page.getLast? = some last := ⟨_, List.getLast?_eq_some_getLast hne⟩
    have hmem : last ∈ page := List.mem_of_getLast? hlast
    have hnext : (collected done).start.toNat ≤ lastOf last := by
      have hin : last ∈ begunBehind (startBehind done) primaryServiceUuid server.db.services := by
        rw [hrest, hpage]
        exact List.mem_append_left _ hmem
      have hge := (List.mem_filter.mp hin).2
      simp only [decide_eq_true_eq] at hge
      exact Nat.le_trans hge (first_le_last last)
    have hgetLast : (done ++ page).getLast? = some last := by rw [List.getLast?_append, hlast]; rfl
    refine ⟨_, hserve, .inr ⟨page, more, hne, hpage, ?_⟩⟩
    rw [client_page _ hgrouped hlen hlast hnext]
    by_cases hend : last.endHandle = 0xFFFF
    · left
      have hmore : more = [] := by
        refine List.eq_nil_iff_forall_not_mem.mpr fun s hs => ?_
        rw [hpage] at hapart
        have hlt := (List.pairwise_append.mp (List.pairwise_append.mp hapart).2.1).2.2 last hmem s hs
        have hmax : lastOf last = 65535 := congrArg BitVec.toNat hend
        have := s.startHandle.isLt
        have hs' : firstOf s = s.startHandle.toNat := rfl
        omega
      refine ⟨hmore, ?_⟩
      rw [if_neg (not_not_intro hend), hitems, hpage, hmore, List.append_nil, List.map_append]
      rfl
    · right
      refine ⟨fun s hs => ?_, ?_⟩
      · rw [hgetLast] at hs
        exact (Option.some.inj hs) ▸ hend
      · have hstart' : startBehind (done ++ page) = last.endHandle + 1 := by rw [startBehind, hgetLast]; rfl
        rw [if_pos hend, collected, collected, hstart', List.map_append]

/-- What the library reports of a service: its handles, and a UUID that denotes the number of the
one in its declaration. -/
def Reports (s : GattDbService) (found : PrimaryServices.GattlibPrimaryService) : Prop :=
  found.attrHandleStart = s.startHandle ∧ found.attrHandleEnd = s.endHandle ∧
    ∃ uuid, serviceUuid s = some uuid ∧ Uuids.denoted found.uuid = Uuids.denoted (UuidText.btUuidToUuid uuid)

/-- The search ends with all the services that there are. -/
theorem search_ends (h : Regular server.db) (hmtu : 23 ≤ server.attMtu.toNat) (junk : ℕ → UInt8) (room n : ℕ)
    (hn : (primaryServices server.db).length < n) :
    converse (primaryAllCb room) (serve junk) n server (.send (collected []) (primaryRequest (startBehind []))) =
      .ended server (.called 0 ((primaryServices server.db).map primaryFound)) := by
  refine pages_complete (fun done rest => search_page h hmtu room) (List.nil_append _).symm (fun s hs => ?_) hn
  cases hs

/-- The library reports them as they are. -/
theorem found_reported (h : Regular server.db) : List.Forall₂ Reports (primaryServices server.db)
    (gattlibPrimaryAllCb 0 ((primaryServices server.db).map primaryFound)) := by
  rw [gattlibPrimaryAllCb, if_neg (by simp), List.map_map, List.forall₂_map_right_iff, List.forall₂_same]
  intro s hs
  have hdecl := (h.laidOut s (List.mem_of_mem_filter hs)).declared
  obtain ⟨uuid, huuid⟩ := Option.isSome_iff_exists.mp hdecl.uuid
  have hservice : serviceUuid s = some uuid := by rw [serviceUuid, hdecl.whole, List.take_length, huuid]
  have hknown : uuid ≠ .unspec := by
    rintro rfl
    have hput := putUuidLe_getUuidLe huuid
    cases hput
  refine ⟨rfl, rfl, uuid, hservice, ?_⟩
  show Uuids.denoted (uuidOfText (primaryFound s).uuid) = _
  rw [primaryFound, hservice, Option.getD_some, denoted_text hknown]

/-- The search for primary services at a server with a regularly filled database ends, after one
request more than there are services at most, with all the active ones, in their order. -/
theorem primary_services_found (junk : ℕ → UInt8) (server : BtGattServer)
    (h : Reach dbStep RegularCall (· = gattDbNew) server.db) (hmtu : 23 ≤ server.attMtu.toNat) (room n : ℕ)
    (hn : (primaryServices server.db).length < n) :
    ∃ next found, discoverPrimaryAll room = some next ∧
      converse (primaryAllCb room) (serve junk) n server next = .ended server (.called 0 found) ∧
      List.Forall₂ Reports (primaryServices server.db) (gattlibPrimaryAllCb 0 found) := by
  have hreg := reach_regular h
  exact ⟨.send (collected []) (primaryRequest (startBehind [])), _, rfl, search_ends hreg hmtu junk room n hn,
    found_reported hreg⟩

def batteryServer : BtGattServer := btGattServerNew batteryDb 23 23 1

theorem primary_services_found_battery : ∃ next found, discoverPrimaryAll 23 = some next ∧
    converse (primaryAllCb 23) (serve fun _ => 0) 2 batteryServer next =
      .ended batteryServer (.called 0 found) ∧
    List.Forall₂ Reports (primaryServices batteryDb) (gattlibPrimaryAllCb 0 found) :=
  primary_services_found (fun _ => 0) batteryServer batteryDb_reached (by decide) 23 2 (by decide)

end

end Gattlib.PrimaryDiscovery
