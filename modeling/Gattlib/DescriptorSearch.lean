import Gattlib.DatabaseQueries
import Gattlib.GattDiscovery
import Gattlib.GattServer
import Gattlib.PduRoundTrips
import Mathlib.Data.List.TakeWhile

namespace Gattlib.DescriptorSearch

open Uuids (BtUuid btUuidToUuid128)
open UuidText (maxLenUuidStr)
open AttPdus GattDatabase GattServer GattDiscovery ServiceOrder DatabaseLayout DatabaseQueries PduRoundTrips
open Library.Dialogue Library.Records Library.Spans Library.Transition

/-- The bytes of a UUID that is sent. -/
def sentLen (uuid : BtUuid) : ℕ := if btUuidLen uuid = 2 then 2 else 16

def shortUuid : BtUuid → BitVec 16
  | .u16 value => value
  | _ => 0

/-- What the client is to find of an attribute. -/
def descFound (a : GattDbAttribute) : GattDesc :=
  ⟨btUuidToString a.uuid (maxLenUuidStr + 1), a.handle, shortUuid a.uuid⟩

/-- The entry of an attribute in a response. -/
def infoUnit (a : GattDbAttribute) : List UInt8 := putLe16 a.handle ++ uuidToLe a.uuid

/-- The attribute has a handle and a type. -/
structure Typed (a : GattDbAttribute) : Prop where
  handle : a.handle ≠ 0
  uuid : a.uuid ≠ .unspec

section

variable {db : GattDb} {a : GattDbAttribute} {q : List GattDbAttribute} {start end_ : BitVec 16}
  {mtu size : ℕ} {pdu : List UInt8} {junk : ℕ → UInt8} {server : BtGattServer} {uuid : BtUuid}

theorem sentLen_length (h : uuid ≠ .unspec) : (uuidToLe uuid).length = sentLen uuid := by
  cases uuid with
  | unspec => exact absurd rfl h
  | u16 value => exact putLe16_length value
  | u32 value => exact List.length_reverse.trans (Uuids.Uint128.size _)
  | u128 value => exact List.length_reverse.trans value.size

theorem btUuidLen_pos (h : uuid ≠ .unspec) : btUuidLen uuid ≠ 0 := by
  cases uuid with
  | unspec => exact absurd rfl h
  | u16 _ | u32 _ | u128 _ => simp [btUuidLen]

theorem sentLen_either (uuid : BtUuid) : sentLen uuid = 2 ∨ sentLen uuid = 16 := by
  rw [sentLen]
  split
  · exact .inl rfl
  · exact .inr rfl

/-! What the server puts into a response -/

theorem encodeInfos_more (h : ∀ a ∈ q, Typed a) (hsize : size = 2 ∨ size = 16) (hpdu : pdu ≠ []) :
    encodeInfos mtu pdu size q = some (pdu ++ (fitting (size + 2) (mtu - 1) pdu.length
      ((q.takeWhile fun a => btUuidLen a.uuid == size).map infoUnit)).flatten) := by
  induction q generalizing pdu with
  | nil => simp [encodeInfos, fitting]
  | cons a q ih =>
    have ha := h a (by simp)
    rw [encodeInfos]
    simp only [if_neg ha.handle, hpdu, false_and, if_false, ne_eq, not_false_eq_true, true_and]
    by_cases hsame : btUuidLen a.uuid = size
    · have hlength : (uuidToLe a.uuid).length = size := by
        rw [sentLen_length ha.uuid, sentLen, hsame]
        rcases hsize with rfl | rfl <;> rfl
      have hlen : (pdu ++ putLe16 a.handle ++ uuidToLe a.uuid).length = pdu.length + (size + 2) := by
        simp only [List.length_append, putLe16_length, hlength]
        omega
      have htake : (a :: q).takeWhile (fun a => btUuidLen a.uuid == size) =
          a :: q.takeWhile fun a => btUuidLen a.uuid == size := by
        rw [List.takeWhile_cons, if_pos (by simp [hsame])]
      rw [if_neg (not_not_intro hsame), htake, List.map_cons, fitting]
      by_cases hfit : pdu.length + (size + 2) ≤ mtu - 1
      · rw [if_neg (by omega), if_pos hfit, ih (fun b hb => h b (by simp [hb])) (by simp [hpdu]), hlen]
        simp [infoUnit]
      · rw [if_pos (by omega), if_neg hfit]
        simp
    · rw [if_pos hsame, List.takeWhile_cons, if_neg (by simp [hsame])]
      simp [fitting]

/-- The attributes that could go into one response: the first one, and those with UUIDs of the size
that its has in the PDU. -/
def sameFormat (a : GattDbAttribute) (q : List GattDbAttribute) : List GattDbAttribute :=
  a :: q.takeWhile fun b => btUuidLen b.uuid == sentLen a.uuid

def infoPage (mtu : ℕ) (a : GattDbAttribute) (q : List GattDbAttribute) : List GattDbAttribute :=
  (sameFormat a q).take ((mtu - 1 - 1) / (sentLen a.uuid + 2))

/-- The format of a response, by the size of its UUIDs. -/
def formatOf (size : ℕ) : UInt8 := if size = 2 then 1 else 2

theorem encodeInfos_all (h : ∀ b ∈ a :: q, Typed b) (hmtu : 23 ≤ mtu) :
    encodeInfos mtu [] 0 (a :: q) = some (formatOf (sentLen a.uuid) ::
      ((infoPage mtu a q).map infoUnit).flatten) := by
  have ha := h a (by simp)
  have heither := sentLen_either a.uuid
  have hlen : ([formatOf (sentLen a.uuid)] ++ putLe16 a.handle ++ uuidToLe a.uuid).length =
      1 + (sentLen a.uuid + 2) := by
    simp only [List.length_append, putLe16_length, sentLen_length ha.uuid, List.length_singleton]
    omega
  have hfit : ¬[formatOf (sentLen a.uuid)].length + sentLen a.uuid + 2 > mtu - 1 := by
    simp only [List.length_singleton]
    omega
  have hfirst : encodeInfos mtu [] 0 (a :: q) = encodeInfos mtu
      ([formatOf (sentLen a.uuid)] ++ putLe16 a.handle ++ uuidToLe a.uuid) (sentLen a.uuid) q := by
    have hsent : (if btUuidLen a.uuid = 2 then 2 else 16) = sentLen a.uuid := rfl
    have hformat : (if sentLen a.uuid = 2 then (1 : UInt8) else 2) = formatOf (sentLen a.uuid) := rfl
    rw [encodeInfos]
    simp only [if_neg ha.handle, btUuidLen_pos ha.uuid, and_false, if_false, ne_eq, not_true_eq_false,
      false_and, if_true, hsent, hformat, if_neg hfit]
  have hall : (fitting (sentLen a.uuid + 2) (mtu - 1) 1 ((sameFormat a q).map infoUnit)) =
      infoUnit a :: fitting (sentLen a.uuid + 2) (mtu - 1) (1 + (sentLen a.uuid + 2))
        ((q.takeWhile fun b => btUuidLen b.uuid == sentLen a.uuid).map infoUnit) := by
    rw [sameFormat, List.map_cons, fitting, if_pos (by omega)]
  rw [hfirst, encodeInfos_more (fun b hb => h b (by simp [hb])) heither (by simp), hlen]
  rw [fitting_take (by omega) (by omega)] at hall
  rw [infoPage, List.map_take, hall]
  simp [infoUnit]

/-- The response with the entries of some attributes. -/
def infoResponse (size : ℕ) (page : List GattDbAttribute) : Pdu :=
  ⟨attOpFindInfoResp, formatOf size :: (page.map infoUnit).flatten⟩

theorem serve_info (hstart : start ≠ 0) (hle : start.toNat ≤ end_.toNat) (junk : ℕ → UInt8) :
    serve junk server (encFindInfoReq start end_) =
      match gattDbFindInformation server.db start end_ with
      | [] => (server, some (encErrorResp attOpFindInfoReq start btAttErrorAttributeNotFound))
      | q => match encodeInfos server.attMtu.toNat [] 0 q with
        | none => (server, some (encErrorResp attOpFindInfoReq start btAttErrorUnlikely))
        | some rsp => (server, some ⟨attOpFindInfoResp, rsp⟩) := by
  have hlen : ¬(putLe16 start ++ putLe16 end_).length ≠ 4 := by simp
  have hlast : getLe16 (List.drop 2 (putLe16 start ++ putLe16 end_)) = end_ := by
    rw [drop_putLe16, List.drop_zero, getLe16_alone]
  have hmtu : attOpFindInfoReq ≠ attOpMtuReq := by decide
  have hgroup : attOpFindInfoReq ≠ attOpReadByGroupReq := by decide
  have htype : attOpFindInfoReq ≠ attOpReadByTypeReq := by decide
  simp only [serve, handleRequest, encFindInfoReq, if_neg hmtu, if_neg hgroup, if_neg htype, if_pos, findInfoCb,
    if_neg hlen, getLe16_putLe16, hlast, badRange_none hstart hle]
  cases gattDbFindInformation server.db start end_ with
  | nil => rfl
  | cons a q => cases hrsp : encodeInfos server.attMtu.toNat [] 0 (a :: q) <;> simp only [hrsp, errorRsp]

/-- The attributes of a range. -/
def attributesOf (start end_ : BitVec 16) (db : GattDb) : List GattDbAttribute :=
  between start end_ (fun _ => true) db

theorem attributes_typed (h : Regular db) : ∀ a ∈ attributesOf start end_ db, Typed a := by
  intro a ha
  obtain ⟨hact, -, -, -⟩ := mem_between.mp ha
  have hpos := active_pos h hact
  obtain ⟨s, hs, -, hmem⟩ := active_present hact
  refine ⟨fun hzero => ?_, (h.laidOut s hs).known a hmem⟩
  have hzero' : handleOf a = 0 := congrArg BitVec.toNat hzero
  omega

/-- The attributes of one response. -/
structure Page (size : ℕ) (page : List GattDbAttribute) : Prop where
  either : size = 2 ∨ size = 16
  typed : ∀ a ∈ page, Typed a
  sized : ∀ a ∈ page, sentLen a.uuid = size
  short : (infoResponse size page).length < 65536

theorem infoUnit_length {page : List GattDbAttribute} (ht : ∀ a ∈ page, Typed a)
    (h : ∀ a ∈ page, sentLen a.uuid = size) : ∀ d ∈ page.map infoUnit, d.length = size + 2 := by
  intro d hd
  obtain ⟨a, ha, rfl⟩ := List.mem_map.mp hd
  simp only [infoUnit, List.length_append, putLe16_length, sentLen_length (ht a ha).uuid, h a ha]
  omega

/-- The server answers with the next attributes there are, one at least. -/
theorem serve_page (h : Regular server.db) (hmtu : 23 ≤ server.attMtu.toNat) (hstart : start ≠ 0)
    (hle : start.toNat ≤ end_.toNat) (junk : ℕ → UInt8) :
    (attributesOf start end_ server.db = [] ∧ serve junk server (encFindInfoReq start end_) =
        (server, some (encErrorResp attOpFindInfoReq start btAttErrorAttributeNotFound))) ∨
    ∃ size page more, page ≠ [] ∧ attributesOf start end_ server.db = page ++ more ∧ Page size page ∧
      serve junk server (encFindInfoReq start end_) = (server, some (infoResponse size page)) := by
  have hall : ∀ a ∈ attributesOf start end_ server.db, Typed a := attributes_typed h
  have hread : gattDbFindInformation server.db start end_ = attributesOf start end_ server.db :=
    findInformation_between h
  rw [serve_info hstart hle, hread]
  cases hrest : attributesOf start end_ server.db with
  | nil => exact .inl ⟨rfl, rfl⟩
  | cons a rest =>
    right
    rw [hrest] at hall
    have heither := sentLen_either a.uuid
    have hlt := server.attMtu.isLt
    obtain ⟨hne, hroom⟩ := page_room (l := sameFormat a rest) (by omega)
      (show 1 + (sentLen a.uuid + 2) ≤ server.attMtu.toNat - 1 by omega) (List.cons_ne_nil _ _)
    obtain ⟨more, hsplit⟩ : ∃ more, a :: rest = infoPage server.attMtu.toNat a rest ++ more :=
      page_split _ a rest _
    have htyped : ∀ b ∈ infoPage server.attMtu.toNat a rest, Typed b := fun b hb => hall b (by
      rw [hsplit]
      exact List.mem_append_left _ hb)
    have hsized : ∀ b ∈ infoPage server.attMtu.toNat a rest, sentLen b.uuid = sentLen a.uuid := fun b hb => by
      rcases List.mem_cons.mp (List.mem_of_mem_take hb) with rfl | hb
      · rfl
      · have hsame : btUuidLen b.uuid = sentLen a.uuid := by simpa using List.mem_takeWhile_imp hb
        rw [sentLen, hsame]
        rcases heither with he | he <;> simp [he]
    refine ⟨sentLen a.uuid, infoPage server.attMtu.toNat a rest, more, hne, hsplit, ⟨heither, htyped, hsized, ?_⟩, ?_⟩
    · rw [infoResponse, Pdu.length, List.length_cons, flatten_length (infoUnit_length htyped hsized),
        List.length_map]
      rw [infoPage]
      omega
    · simp only [encodeInfos_all hall hmtu]
      rfl

/-! What the client makes of it -/

theorem sent_uuid (h : uuid ≠ .unspec) :
    btUuidToUuid128 .unspec ((getUuidLe (uuidToLe uuid)).getD .unspec) = btUuidToUuid128 .unspec uuid := by
  cases uuid with
  | unspec => exact absurd rfl h
  | u16 value =>
    have hget : getUuidLe (uuidToLe (.u16 value)) = some (.u16 value) :=
      getUuidLe_putUuidLe (show putUuidLe (.u16 value) = some (putLe16 value) from rfl)
    rw [hget, Option.getD_some]
  | u32 value =>
    obtain ⟨v, hv, -⟩ := Uuids.btExpanded32 .unspec value
    have hsent : uuidToLe (.u32 value) = v.data.reverse := by rw [uuidToLe, hv]; simp
    have hget : getUuidLe v.data.reverse = some (.u128 v) :=
      getUuidLe_putUuidLe (show putUuidLe (.u128 v) = some v.data.reverse from rfl)
    rw [hsent, hget, Option.getD_some, hv]
    rfl
  | u128 value =>
    have hget : getUuidLe (uuidToLe (.u128 value)) = some (.u128 value) :=
      getUuidLe_putUuidLe (show putUuidLe (.u128 value) = some value.data.reverse from rfl)
    rw [hget, Option.getD_some]

/-- What the loop makes of one entry. -/
theorem descsOf_unit {wanted : Option BtUuid} (hall : wanted = none) (ht : Typed a)
    (hsize : sentLen a.uuid = size) (last : BitVec 16) (rest : List (List UInt8)) :
    descsOf wanted (formatOf size == 1) last (infoUnit a :: rest) =
      (descsOf wanted (formatOf size == 1) a.handle rest).map fun r => (r.1, descFound a :: r.2.1, r.2.2) := by
  have heither : size = 2 ∨ size = 16 := hsize ▸ sentLen_either a.uuid
  have huuid : uuidSize (formatOf size == 1) = size := by
    rcases heither with rfl | rfl <;> rfl
  have hlen : (infoUnit a).length = 2 + size := by
    simp only [infoUnit, List.length_append, putLe16_length, sentLen_length ht.uuid, hsize]
  have hdrop : (infoUnit a).drop 2 = uuidToLe a.uuid := by rw [infoUnit, drop_putLe16, List.drop_zero]
  have hbytes : ((infoUnit a).drop 2).take (uuidSize (formatOf size == 1)) = uuidToLe a.uuid := by
    rw [hdrop, huuid, ← hsize, ← sentLen_length ht.uuid, List.take_length]
  have hread : uuid128At (formatOf size == 1) (infoUnit a) 2 = btUuidToUuid128 .unspec a.uuid := by
    rw [uuid128At, hbytes, sent_uuid ht.uuid]
  have hhandle : getLe16 (((infoUnit a).drop 0).take 2) = a.handle := by
    rw [List.drop_zero, getLe16_take (Nat.le_refl 2), infoUnit, getLe16_putLe16]
  have hshort : (if (formatOf size == 1) = true then getLe16 ((infoUnit a).drop 2) else 0) =
      shortUuid a.uuid := by
    rw [hdrop, ← hsize]
    cases hu : a.uuid with
    | unspec => exact absurd hu ht.uuid
    | u16 value => exact getLe16_alone value
    | u32 value => rfl
    | u128 value => rfl
  rw [descsOf, readBytes_ok (by omega), getUuid128_ok (by rw [huuid, hlen])]
  simp only [bind, Except.bind, hread, hall, skipped, Option.any_none, Bool.false_eq_true, if_false, hhandle,
    Option.isSome_none, hshort, toString_expanded, pure, Except.pure]
  cases descsOf none (formatOf size == 1) a.handle rest <;> rfl

theorem descsOf_page {page : List GattDbAttribute} {wanted : Option BtUuid} (hall : wanted = none)
    (ht : ∀ a ∈ page, Typed a) (hs : ∀ a ∈ page, sentLen a.uuid = size) (last : BitVec 16) :
    descsOf wanted (formatOf size == 1) last (page.map infoUnit) =
      .ok ((page.getLast?.map GattDbAttribute.handle).getD last, page.map descFound, false) := by
  induction page generalizing last with
  | nil => rfl
  | cons a page ih =>
    rw [List.map_cons, descsOf_unit hall (ht a (by simp)) (hs a (by simp)),
      ih (fun b hb => ht b (by simp [hb])) (fun b hb => hs b (by simp [hb])), List.getLast?_cons]
    cases page.getLast? <;> rfl

/-- The client goes on behind the last attribute of a response, unless that is the end of the range. -/
theorem client_page {page : List GattDbAttribute} {last : GattDbAttribute} {dd : DiscoverDesc}
    (hall : dd.uuid = none) (h : Page size page) (hlast : page.getLast? = some last)
    (hnext : dd.start.toNat ≤ handleOf last) :
    descDiscoveredCb dd (infoResponse size page) =
      if last.handle < dd.end_ then
        .send { dd with descriptors := dd.descriptors ++ page.map descFound, start := last.handle + 1 }
          (encFindInfoReq (last.handle + 1) dd.end_)
      else .stop (.called 0 (dd.descriptors ++ page.map descFound)) := by
  have heither := h.either
  have huniform := infoUnit_length h.typed h.sized
  have hdec : decFindInfoResp (infoResponse size page) =
      .ok (some (formatOf size, ⟨size + 2, page.map infoUnit, huniform, by omega⟩)) := by
    refine (decFindInfo_exact h.short).mpr ⟨rfl, ?_, [], by show 0 < size + 2; omega, ?_⟩
    · show size + 2 = _
      rcases heither with rfl | rfl <;> rfl
    · rw [List.append_nil]
      rfl
  have hfound := descsOf_page hall h.typed h.sized 0xFFFF
  rw [hlast] at hfound
  have hresponse : attOpFindInfoResp ≠ attOpError := by decide
  have hstatus : statusOf (infoResponse size page) = 0 := if_neg hresponse
  have hnone : (0 : UInt8) ≠ attEcodeAttrNotFound := by decide
  have hbehind : ¬last.handle < dd.start := Nat.not_lt.mpr hnext
  simp only [descDiscoveredCb, hstatus, hdec, hfound, if_neg hnone, Option.map_some, Option.getD_some,
    if_neg hbehind, ne_eq, not_true_eq_false, if_false, Bool.not_false, and_true]

/-- The search ends when there are no more attributes, and with an error when there were none. -/
theorem client_none (dd : DiscoverDesc) (start : BitVec 16) :
    descDiscoveredCb dd (encErrorResp attOpFindInfoReq start btAttErrorAttributeNotFound) =
      .stop (.called (if dd.descriptors = [] then attEcodeAttrNotFound else 0) dd.descriptors) := by
  have hstatus : statusOf (encErrorResp attOpFindInfoReq start btAttErrorAttributeNotFound) =
      attEcodeAttrNotFound := rfl
  simp only [descDiscoveredCb, hstatus, if_true]

/-! The whole search -/

/-- The client when it has found some attributes. -/
def collected (start end_ : BitVec 16) (done : List GattDbAttribute) : DiscoverDesc :=
  ⟨none, startBehind start done, end_, done.map descFound⟩

/-- How the search ends. -/
def descsCalled (found : List GattDbAttribute) : Ended GattDesc :=
  .called (if found = [] then attEcodeAttrNotFound else 0) (found.map descFound)

/-- The last one that has been found is not at the end of the range. -/
def Unfinished (start end_ : BitVec 16) (done : List GattDbAttribute) : Prop :=
  start.toNat ≤ end_.toNat ∧ ∀ a ∈ done.getLast?, handleOf a < end_.toNat

/-- One request of the search and its answer. -/
theorem search_page (h : Regular server.db) (hmtu : 23 ≤ server.attMtu.toNat) (hstart : start ≠ 0)
    {done rest : List GattDbAttribute} (hitems : attributesOf start end_ server.db = done ++ rest)
    (hasks : Unfinished start end_ done) :
    ∃ resp, serve junk server (encFindInfoReq (startBehind start done) end_) = (server, some resp) ∧
      ((rest = [] ∧ descDiscoveredCb (collected start end_ done) resp =
          .stop (descsCalled (attributesOf start end_ server.db))) ∨
        ∃ page more, page ≠ [] ∧ rest = page ++ more ∧
          ((more = [] ∧ descDiscoveredCb (collected start end_ done) resp =
              .stop (descsCalled (attributesOf start end_ server.db))) ∨
            Unfinished start end_ (done ++ page) ∧
              descDiscoveredCb (collected start end_ done) resp = .send (collected start end_ (done ++ page))
                (encFindInfoReq (startBehind start (done ++ page)) end_))) := by
  have hend := end_.isLt
  have hbehind : (startBehind start done).toNat = behind handleOf start.toNat done :=
    startBehind_toNat fun a ha => by
      have := hasks.2 a ha
      omega
  have hrest : attributesOf (startBehind start done) end_ server.db = rest := between_rest h hitems hbehind
  have hstart' : startBehind start done ≠ 0 ∧ (startBehind start done).toNat ≤ end_.toNat := by
    rw [behind] at hbehind
    cases hlast : done.getLast? with
    | none =>
      rw [startBehind, hlast]
      exact ⟨hstart, hasks.1⟩
    | some a =>
      have hlt := hasks.2 a hlast
      rw [hlast] at hbehind
      have hnext : (startBehind start done).toNat = handleOf a + 1 := hbehind
      refine ⟨fun hzero => ?_, by omega⟩
      rw [hzero] at hnext
      exact absurd hnext (Nat.succ_ne_zero _).symm
  rcases serve_page h hmtu hstart'.1 hstart'.2 junk with ⟨hnone, hserve⟩ | ⟨size, page, more, hne, hpage, hinfo, hserve⟩
  · rw [hrest] at hnone
    refine ⟨_, hserve, .inl ⟨hnone, ?_⟩⟩
    rw [client_none, hitems, hnone, List.append_nil, descsCalled, collected]
    simp
  · rw [hrest] at hpage
    obtain ⟨last, hlast⟩ : ∃ last, page.getLast? = some last := ⟨_, List.getLast?_eq_some_getLast hne⟩
    have hin : last ∈ attributesOf (startBehind start done) end_ server.db := by
      rw [hrest, hpage]
      exact List.mem_append_left _ (List.mem_of_getLast? hlast)
    obtain ⟨hact, hge, hle, -⟩ := mem_between.mp hin
    refine ⟨_, hserve, .inr ⟨page, more, hne, hpage, ?_⟩⟩
    rw [client_page rfl hinfo hlast hge, startBehind_append hlast]
    by_cases hmore : last.handle < end_
    · right
      refine ⟨⟨hasks.1, fun a ha => ?_⟩, ?_⟩
      · rw [List.getLast?_append, hlast] at ha
        obtain rfl := Option.some.inj ha
        exact hmore
      · have hmore' : last.handle < (collected start end_ done).end_ := hmore
        rw [if_pos hmore', collected, collected, startBehind_append hlast, List.map_append]
    · left
      have hnil : more = [] := by
        refine List.eq_nil_iff_forall_not_mem.mpr fun b hb => ?_
        have hb' : b ∈ attributesOf (startBehind start done) end_ server.db := by
          rw [hrest, hpage]
          exact List.mem_append_right _ hb
        obtain ⟨-, -, hble, -⟩ := mem_between.mp hb'
        have hapart : Apart handleOf handleOf (between (startBehind start done) end_ (fun _ => true) server.db) :=
          between_apart h
        have hsplit : between (startBehind start done) end_ (fun _ => true) server.db = page ++ more :=
          hrest.trans hpage
        rw [hsplit] at hapart
        have hlast' := (List.pairwise_append.mp hapart).2.2 last (List.mem_of_getLast? hlast) b hb
        have hmore' : ¬handleOf last < end_.toNat := hmore
        omega
      refine ⟨hnil, ?_⟩
      have hsome : done ++ page ≠ [] := by simp [hne]
      have hmore' : ¬last.handle < (collected start end_ done).end_ := hmore
      rw [if_neg hmore', hitems, hpage, hnil, List.append_nil, descsCalled, if_neg hsome, List.map_append]
      rfl

/-- What the library reports of an attribute: its handle, its short type, if it has one, and a UUID
that denotes the number of its type. -/
def Reports (a : GattDbAttribute) (found : GattlibDescriptor) : Prop :=
  found.handle = a.handle ∧ found.uuid16 = shortUuid a.uuid ∧
    Uuids.denoted found.uuid = Uuids.denoted (UuidText.btUuidToUuid a.uuid)

/-- The search for descriptors at a server with a regularly filled database ends, after one request
more than there are attributes in the range at most, with every attribute of the active services: not
the descriptors alone. -/
theorem attributes_found (junk : ℕ → UInt8) (server : BtGattServer)
    (h : Reach dbStep RegularCall (· = gattDbNew) server.db) (hmtu : 23 ≤ server.attMtu.toNat)
    (start end_ : BitVec 16) (hstart : start ≠ 0) (hle : start.toNat ≤ end_.toNat) (n : ℕ)
    (hn : (attributesOf start end_ server.db).length < n) :
    ∃ status found, converse descDiscoveredCb (serve junk) n server (gattDiscoverDesc start end_ none) =
        .ended server (.called status found) ∧
      List.Forall₂ Reports (attributesOf start end_ server.db) (gattlibDescriptorCb status found) := by
  have hreg := reach_regular h
  refine ⟨_, _, pages_complete (fun done rest => search_page hreg hmtu hstart) (List.nil_append _).symm
    ⟨hle, fun a ha => ?_⟩ hn, ?_⟩
  · cases ha
  · have hall : ∀ a ∈ attributesOf start end_ server.db, Typed a := attributes_typed hreg
    rw [gattlibDescriptorCb]
    by_cases hnone : attributesOf start end_ server.db = []
    · rw [if_pos (by rw [if_pos hnone]; decide), hnone]
      exact .nil
    · rw [if_neg (by rw [if_neg hnone]; simp), List.map_map, List.forall₂_map_right_iff, List.forall₂_same]
      exact fun a ha => ⟨rfl, rfl, denoted_text (hall a ha).uuid⟩

theorem attributes_found_battery : ∃ status found,
    converse descDiscoveredCb (serve fun _ => 0) 5 (btGattServerNew batteryDb 23 23 1)
        (gattDiscoverDesc 1 0xFFFF none) =
      .ended (btGattServerNew batteryDb 23 23 1) (.called status found) ∧
    List.Forall₂ Reports (attributesOf 1 0xFFFF batteryDb) (gattlibDescriptorCb status found) :=
  attributes_found (fun _ => 0) (btGattServerNew batteryDb 23 23 1) batteryDb_reached (by decide) 1 0xFFFF
    (by decide) (by decide) 5 (by decide)

end

end Gattlib.DescriptorSearch
